import ScanSchema.Misuse
import ScanSchema.Table.CharClasses
import ScanSchema.Table.Definition

/-!
# Automata

An `Automaton` holds a scanner table in the form in which it runs: the rows of the transition matrix
stand behind each other in one array, so that a look-up is one index. `Definition.flatten` makes an
automaton of a definition and `Automaton.toDefinition` gives the definition back. An automaton is
`Legal` when all its look-ups stay in range, when no state goes on at the end of input, and when no
start state accepts a lexeme before it has read a character.
-/

namespace ScanSchema

/-- A scanner table with its transition matrix in one array. -/
structure Automaton where
  /-- The classes of all characters. -/
  classes : CharClasses
  /-- Number of character classes, the width of a row. -/
  classCount : Nat
  /-- Number of states, the number of rows. -/
  stateCount : Nat
  /-- The states below this number start a mode. -/
  modeCount : Nat
  /-- The codes of all outcomes, row after row. -/
  cells : Array Int32
  /-- For each lexeme its rule. -/
  lexemeRules : Array RuleId
  /-- The rules. -/
  rules : Array Rule
  deriving DecidableEq, Repr, Inhabited

namespace Automaton

/-- The place of a cell in the array. A class past the end of its row falls into the next one. -/
def cellIndex (automaton : Automaton) (state cls : Nat) : Nat := state * automaton.classCount + cls

/-- The outcome of a class in a state, if there is such a cell. -/
def outcome? (automaton : Automaton) (state cls : Nat) : Option Outcome :=
  automaton.cells[automaton.cellIndex state cls]?.map Outcome.decode

/-- The outcome of a class in a state; a cell that does not exist rejects. -/
def outcome (automaton : Automaton) (state cls : Nat) : Outcome :=
  (automaton.outcome? state cls).getD .reject

/-- The rule of a lexeme, if there is such a lexeme. -/
def lexemeRule? (automaton : Automaton) (lexeme : Nat) : Option RuleId :=
  automaton.lexemeRules[lexeme]?

/-- The rule of a lexeme; one that does not exist has the rule of the end of input. -/
def lexemeRule (automaton : Automaton) (lexeme : Nat) : RuleId :=
  (automaton.lexemeRule? lexeme).getD .endOfInput

/-- Look up the outcome of a class in a state. -/
def lookUp (automaton : Automaton) (state cls : Nat) : Except Misuse Outcome :=
  match automaton.outcome? state cls with
  | some outcome => .ok outcome
  | none => .error (.indexOutOfBounds automaton.cells.size (automaton.cellIndex state cls))

/-- Look up the rule of a lexeme. -/
def lookUpLexeme (automaton : Automaton) (lexeme : Nat) : Except Misuse RuleId :=
  match automaton.lexemeRule? lexeme with
  | some rule => .ok rule
  | none => .error (.indexOutOfBounds automaton.lexemeRules.size lexeme)

/-- The name of a rule. -/
def ruleName (automaton : Automaton) (rule : RuleId) : String :=
  (automaton.rules[rule.index]?.map (·.name)).getD "<unknown>"

/-- What happens to the matches of a rule. -/
def ruleAction (automaton : Automaton) (rule : RuleId) : RuleAction :=
  (automaton.rules[rule.index]?.map (·.action)).getD .emit

/-- The numbers of all rules, in order. -/
def ruleIds (automaton : Automaton) : List RuleId :=
  (List.range automaton.rules.size).map fun index => ⟨UInt16.ofNat index⟩

/-- The first rule of a given name. -/
def ruleByName? (automaton : Automaton) (name : String) : Option RuleId :=
  (automaton.rules.toList.findIdx? (·.name == name)).map fun index => ⟨UInt16.ofNat index⟩

/-- When an outcome may stand in the cell of a state and a class. -/
def LegalOutcome (automaton : Automaton) (state cls : Nat) : Outcome → Prop
  | .goto target => target < automaton.stateCount ∧ cls ≠ 0
  | .accept lexeme => lexeme < automaton.lexemeRules.size ∧ automaton.modeCount ≤ state
  | .acceptEnd => state < automaton.modeCount ∧ cls = 0
  | .reject => True

/-- What a scanner may rely on. -/
structure Legal (automaton : Automaton) : Prop where
  /-- There is a class. -/
  classCount_pos : 0 < automaton.classCount
  /-- There is a rule for the end of input. -/
  rules_pos : 0 < automaton.rules.size
  /-- Every rule has a number of its own. -/
  rules_le : automaton.rules.size ≤ maxRules
  /-- Every listed character is in a class that exists. -/
  map_lt : ∀ cls ∈ automaton.classes.map, cls.toNat < automaton.classCount
  /-- So is every other character. -/
  catchAll_lt : automaton.classes.catchAll.toNat < automaton.classCount
  /-- The class of the end of input is not the catch-all class. -/
  catchAll_ne_zero : automaton.classes.catchAll ≠ 0
  /-- There is a mode. -/
  modeCount_pos : 0 < automaton.modeCount
  /-- Every mode has its start state. -/
  modeCount_le : automaton.modeCount ≤ automaton.stateCount
  /-- Every lexeme has a rule, other than that of the end of input. -/
  lexemeRules_lt : ∀ rule ∈ automaton.lexemeRules,
    rule.index < automaton.rules.size ∧ rule ≠ .endOfInput
  /-- The matrix has a cell for every state and class. -/
  cells_size : automaton.cells.size = automaton.stateCount * automaton.classCount
  /-- Every cell holds a legal outcome. -/
  legalOutcome : ∀ state < automaton.stateCount, ∀ cls < automaton.classCount,
    automaton.LegalOutcome state cls (automaton.outcome state cls)

end Automaton

/-- Cut a list into `count` rows of a given width. -/
def splitRows (width : Nat) : Nat → List Int32 → List (List Int32)
  | 0, _ => []
  | count + 1, codes => codes.take width :: splitRows width count (codes.drop width)

/-- The definition of an automaton. -/
def Automaton.toDefinition (automaton : Automaton) : Definition where
  charClasses := automaton.classes.map.toList
  catchAll := automaton.classes.catchAll
  classCount := automaton.classCount
  modes := automaton.modeCount
  transitions := splitRows automaton.classCount automaton.stateCount automaton.cells.toList
  lexemeRules := automaton.lexemeRules.toList.map (·.number)
  rules := automaton.rules.toList

/-- The automaton of a definition. -/
def Definition.flatten (definition : Definition) : Automaton where
  classes := ⟨definition.charClasses.toArray, definition.catchAll⟩
  classCount := definition.classCount
  stateCount := definition.stateCount
  modeCount := definition.modes
  cells := definition.transitions.flatten.toArray
  lexemeRules := (definition.lexemeRules.map RuleId.mk).toArray
  rules := definition.rules.toArray

section Flatten

/-- Rows of one width, one behind the other, take width times count places. -/
theorem length_flatten_of_width {width : Nat} {rows : List (List Int32)}
    (h : ∀ row ∈ rows, row.length = width) : rows.flatten.length = rows.length * width := by
  induction rows with
  | nil => simp
  | cons row rows ih =>
    rw [List.flatten_cons, List.length_append, h row List.mem_cons_self,
      ih fun r hr => h r (List.mem_cons_of_mem _ hr), List.length_cons, Nat.succ_mul, Nat.add_comm]

/-- In rows of one width, place `state * width + cls` is place `cls` of row `state`. -/
theorem getElem?_flatten_of_width {width : Nat} {rows : List (List Int32)}
    (h : ∀ row ∈ rows, row.length = width) {state cls : Nat} (hcls : cls < width) :
    rows.flatten[state * width + cls]? = rows[state]?.bind (·[cls]?) := by
  induction rows generalizing state with
  | nil => simp
  | cons row rows ih =>
    have hrow : row.length = width := h row List.mem_cons_self
    rw [List.flatten_cons]
    cases state with
    | zero => simp [List.getElem?_append_left (by omega : cls < row.length)]
    | succ state =>
      rw [Nat.succ_mul, List.getElem?_append_right (by omega), List.getElem?_cons_succ,
        ← ih (fun r hr => h r (List.mem_cons_of_mem _ hr))]
      congr 1
      omega

/-- Cutting rows of one width apart undoes putting them behind each other. -/
theorem splitRows_flatten {width : Nat} {rows : List (List Int32)}
    (h : ∀ row ∈ rows, row.length = width) : splitRows width rows.length rows.flatten = rows := by
  induction rows with
  | nil => rfl
  | cons row rows ih =>
    have hrow : row.length = width := h row List.mem_cons_self
    simp only [List.length_cons, splitRows, List.flatten_cons]
    rw [← hrow, List.take_left, List.drop_left, hrow,
      ih fun r hr => h r (List.mem_cons_of_mem _ hr)]

end Flatten

end ScanSchema
