import ScanSchema.Table.Outcome
import ScanSchema.Table.Rule

/-!
# Table definitions and their defects

A `Definition` is a scanner table as it is written down: rows of transition codes, the classes of
the first characters, lexemes and rules. Anything can be written down, so a definition is checked
before it is run. `Definition.defect?` names the first defect, in a fixed order: the counts, the
character classes, the modes, the lexemes, and then the rows cell by cell. A definition without a
defect describes an automaton whose look-ups stay in range and whose scans end.
-/

namespace ScanSchema

/-- A scanner table as it is written down. -/
structure Definition where
  /-- Classes of the first code points. -/
  charClasses : List UInt8
  /-- Class of all other characters. -/
  catchAll : UInt8 := 1
  /-- Number of character classes. -/
  classCount : Nat
  /-- The states below this number start a mode. -/
  modes : Nat := 1
  /-- For each state the codes of its outcomes, one for each class. -/
  transitions : List (List Int32)
  /-- For each lexeme the number of its rule. -/
  lexemeRules : List UInt16
  /-- The rules; the first stands for the end of input. -/
  rules : List Rule
  deriving DecidableEq, Repr, Inhabited

/-- Why a definition does not describe a table. -/
inductive Defect where
  /-- There are no character classes. -/
  | emptyAlphabet
  /-- There are no rules. -/
  | noRules
  /-- There are no states. -/
  | noStates
  /-- There are more rules than rule numbers. -/
  | tooManyRules (count : Nat)
  /-- A listed character is in a class that does not exist. -/
  | classOutOfRange (code cls classCount : Nat)
  /-- The catch-all class does not exist or is that of the end of input. -/
  | invalidCatchAll (cls classCount : Nat)
  /-- There is no mode, or a mode without a state. -/
  | modesOutOfRange (modes states : Nat)
  /-- A lexeme belongs to no rule, or to the rule of the end of input. -/
  | lexemeRuleOutOfRange (lexeme rule : Nat)
  /-- A row does not have one outcome for each class. -/
  | rowWidth (state expected found : Nat)
  /-- A transition leads to a state that does not exist. -/
  | gotoOutOfRange (state cls target : Nat)
  /-- A state goes on at the end of input. -/
  | gotoOnEnd (state : Nat)
  /-- A cell accepts a lexeme that is not listed. -/
  | unknownLexeme (state cls lexeme : Nat)
  /-- A start state accepts a lexeme before any character was read. -/
  | emptyAccept (mode cls : Nat)
  /-- The end of input is accepted inside a token or on a character. -/
  | misplacedEnd (state cls : Nat)
  deriving DecidableEq, Repr

/-- The wording of each defect. -/
def Defect.message : Defect → String
  | .emptyAlphabet => "table declares no character classes"
  | .noRules => "table declares no rules (rule 0 is reserved for end-of-input)"
  | .noStates => "table declares no states"
  | .tooManyRules count => s!"table declares {count} rules, at most 65536 are addressable"
  | .classOutOfRange code cls classCount =>
    s!"character {code} maps to class {cls}, but only {classCount} classes exist"
  | .invalidCatchAll cls classCount => s!"catch-all class {cls} must be in 1..{classCount}"
  | .modesOutOfRange modes states => s!"{modes} modes declared for {states} states"
  | .lexemeRuleOutOfRange lexeme rule => s!"lexeme {lexeme} maps to invalid rule {rule}"
  | .rowWidth state expected found => s!"state {state} has {found} outcomes, expected {expected}"
  | .gotoOutOfRange state cls target =>
    s!"state {state}, class {cls}: continue target {target} does not exist"
  | .gotoOnEnd state => s!"state {state} continues on end of input"
  | .unknownLexeme state cls lexeme =>
    s!"state {state}, class {cls}: accepts undeclared lexeme {lexeme}"
  | .emptyAccept mode cls => s!"mode {mode} accepts a rule on class {cls} without consuming input"
  | .misplacedEnd state cls =>
    s!"state {state}, class {cls}: only a mode start state may accept end of input, on class 0"

namespace Definition

/-- Number of states. -/
def stateCount (definition : Definition) : Nat := definition.transitions.length

/-- What is wrong with the counts, if anything is. -/
def countDefect? (definition : Definition) : Option Defect :=
  if definition.classCount = 0 then some .emptyAlphabet
  else if definition.rules = [] then some .noRules
  else if definition.transitions = [] then some .noStates
  else if maxRules < definition.rules.length then some (.tooManyRules definition.rules.length)
  else none

/-- The first listed character whose class does not exist. -/
def classDefect? (definition : Definition) : Option Defect :=
  definition.charClasses.zipIdx.findSome? fun (cls, code) =>
    if definition.classCount ≤ cls.toNat then
      some (.classOutOfRange code cls.toNat definition.classCount)
    else none

/-- What is wrong with the catch-all class, if anything is. -/
def catchAllDefect? (definition : Definition) : Option Defect :=
  if definition.classCount ≤ definition.catchAll.toNat ∨ definition.catchAll = 0 then
    some (.invalidCatchAll definition.catchAll.toNat definition.classCount)
  else none

/-- What is wrong with the number of modes, if anything is. -/
def modeDefect? (definition : Definition) : Option Defect :=
  if definition.modes = 0 ∨ definition.stateCount < definition.modes then
    some (.modesOutOfRange definition.modes definition.stateCount)
  else none

/-- The first lexeme without a rule of its own. -/
def lexemeDefect? (definition : Definition) : Option Defect :=
  definition.lexemeRules.zipIdx.findSome? fun (rule, lexeme) =>
    if definition.rules.length ≤ rule.toNat ∨ rule = 0 then
      some (.lexemeRuleOutOfRange lexeme rule.toNat)
    else none

/-- What is wrong with one outcome, if anything is. -/
def cellDefect? (definition : Definition) (state cls : Nat) : Outcome → Option Defect
  | .goto target =>
    if definition.stateCount ≤ target then some (.gotoOutOfRange state cls target)
    else if cls = 0 then some (.gotoOnEnd state)
    else none
  | .accept lexeme =>
    if definition.lexemeRules.length ≤ lexeme then some (.unknownLexeme state cls lexeme)
    else if state < definition.modes then some (.emptyAccept state cls)
    else none
  | .acceptEnd =>
    if definition.modes ≤ state ∨ cls ≠ 0 then some (.misplacedEnd state cls) else none
  | .reject => none

/-- What is wrong with one row: its width, or else its first bad cell. -/
def rowDefect? (definition : Definition) (state : Nat) (row : List Int32) : Option Defect :=
  if row.length = definition.classCount then
    row.zipIdx.findSome? fun (code, cls) => definition.cellDefect? state cls (Outcome.decode code)
  else some (.rowWidth state definition.classCount row.length)

/-- The first bad row or cell, row by row. -/
def transitionDefect? (definition : Definition) : Option Defect :=
  definition.transitions.zipIdx.findSome? fun (row, state) => definition.rowDefect? state row

/-- The first defect of a definition. -/
def defect? (definition : Definition) : Option Defect :=
  definition.countDefect? <|> definition.classDefect? <|> definition.catchAllDefect? <|>
    definition.modeDefect? <|> definition.lexemeDefect? <|> definition.transitionDefect?

end Definition

end ScanSchema
