import ScanSchema.Table.Automaton

/-!
# Scanner tables

A `Table` is an automaton together with the proof that it is legal. `Table.ofDefinition` is the one
way to get a table: it checks a definition and answers with the table or with the first defect. The
lemmas here say what a definition without a defect is like, and so why the check suffices.
-/

namespace ScanSchema

namespace Definition

variable {definition : Definition}

/-- Without a defect there are classes, rules and states, and no more rules than `maxRules`. -/
theorem countDefect?_eq_none (h : definition.countDefect? = none) :
    0 < definition.classCount ∧ definition.rules ≠ [] ∧ definition.transitions ≠ [] ∧
      definition.rules.length ≤ maxRules := by
  unfold countDefect? at h
  split at h
  · simp at h
  split at h
  · simp at h
  split at h
  · simp at h
  split at h
  · simp at h
  next hclass hrules hstates hcount =>
    exact ⟨Nat.pos_of_ne_zero hclass, hrules, hstates, Nat.not_lt.mp hcount⟩

/-- Without a defect every character is of a class that exists. -/
theorem classDefect?_eq_none (h : definition.classDefect? = none) :
    ∀ cls ∈ definition.charClasses, cls.toNat < definition.classCount := by
  intro cls hcls
  obtain ⟨code, hcode⟩ := List.getElem?_of_mem hcls
  have hnone := List.findSome?_eq_none_iff.mp h (cls, code)
    (List.mem_zipIdx_iff_getElem?.mpr hcode)
  simp only [ite_eq_right_iff, reduceCtorEq, imp_false, Nat.not_le] at hnone
  exact hnone

/-- Without a defect the class of the other characters exists and is not the end of the input. -/
theorem catchAllDefect?_eq_none (h : definition.catchAllDefect? = none) :
    definition.catchAll.toNat < definition.classCount ∧ definition.catchAll ≠ 0 := by
  simpa only [catchAllDefect?, ite_eq_right_iff, reduceCtorEq, imp_false, not_or, Nat.not_le]
    using h

/-- Without a defect there is a mode, and a state for each. -/
theorem modeDefect?_eq_none (h : definition.modeDefect? = none) :
    0 < definition.modes ∧ definition.modes ≤ definition.stateCount := by
  simp only [modeDefect?, ite_eq_right_iff, reduceCtorEq, imp_false, not_or, Nat.not_lt] at h
  exact ⟨Nat.pos_of_ne_zero h.1, h.2⟩

/-- Without a defect every lexeme has a rule that exists and is not the end of the input. -/
theorem lexemeDefect?_eq_none (h : definition.lexemeDefect? = none) :
    ∀ rule ∈ definition.lexemeRules, rule.toNat < definition.rules.length ∧ rule ≠ 0 := by
  intro rule hrule
  obtain ⟨lexeme, hlexeme⟩ := List.getElem?_of_mem hrule
  have hnone := List.findSome?_eq_none_iff.mp h (rule, lexeme)
    (List.mem_zipIdx_iff_getElem?.mpr hlexeme)
  simpa only [ite_eq_right_iff, reduceCtorEq, imp_false, not_or, Nat.not_le] using hnone

/-- A row without a defect has a cell for each class, and no cell has a defect. -/
theorem rowDefect?_eq_none {state : Nat} {row : List Int32}
    (h : definition.rowDefect? state row = none) :
    row.length = definition.classCount ∧
      ∀ cls code, row[cls]? = some code →
        definition.cellDefect? state cls (Outcome.decode code) = none := by
  unfold rowDefect? at h
  split at h
  next hwidth =>
    refine ⟨hwidth, fun cls code hcode => ?_⟩
    exact List.findSome?_eq_none_iff.mp h (code, cls) (List.mem_zipIdx_iff_getElem?.mpr hcode)
  · simp at h

/-- Transitions without a defect have rows without one. -/
theorem transitionDefect?_eq_none (h : definition.transitionDefect? = none) {state : Nat}
    {row : List Int32} (hrow : definition.transitions[state]? = some row) :
    definition.rowDefect? state row = none :=
  List.findSome?_eq_none_iff.mp h (row, state) (List.mem_zipIdx_iff_getElem?.mpr hrow)

/-- All their rows have a cell for each class. -/
theorem length_row_of_transitionDefect?_eq_none (h : definition.transitionDefect? = none) :
    ∀ row ∈ definition.transitions, row.length = definition.classCount := by
  intro row hrow
  obtain ⟨state, hstate⟩ := List.getElem?_of_mem hrow
  exact (rowDefect?_eq_none (transitionDefect?_eq_none h hstate)).1

/-- The flat array has the cell of every row under its index. -/
theorem outcome?_flatten (h : ∀ row ∈ definition.transitions, row.length = definition.classCount)
    {state cls : Nat} (hcls : cls < definition.classCount) :
    definition.flatten.outcome? state cls =
      (definition.transitions[state]?.bind (·[cls]?)).map Outcome.decode := by
  have hget : definition.transitions.flatten[state * definition.classCount + cls]? = _ :=
    getElem?_flatten_of_width h hcls
  simp only [Automaton.outcome?, Automaton.cellIndex, flatten, List.getElem?_toArray, hget]

/-- A cell without a defect is legal in the flattened automaton. -/
theorem legalOutcome_of_cellDefect?_eq_none {state cls : Nat} {outcome : Outcome}
    (h : definition.cellDefect? state cls outcome = none) :
    definition.flatten.LegalOutcome state cls outcome := by
  cases outcome with
  | goto target =>
    simp only [cellDefect?] at h
    split at h
    · simp at h
    split at h
    · simp at h
    next htarget hclass => exact ⟨Nat.not_le.mp htarget, hclass⟩
  | reject => trivial
  | acceptEnd =>
    simp only [cellDefect?, ite_eq_right_iff, reduceCtorEq, imp_false, not_or, Nat.not_le,
      Decidable.not_not] at h
    exact h
  | accept lexeme =>
    simp only [cellDefect?] at h
    split at h
    · simp at h
    split at h
    · simp at h
    next hlexeme hstate =>
      exact ⟨by simpa [flatten] using hlexeme, Nat.not_lt.mp hstate⟩

/-- A definition without a defect flattens to a legal automaton. -/
theorem flatten_legal (h : definition.defect? = none) : definition.flatten.Legal := by
  simp only [defect?, Option.orElse_eq_orElse, Option.orElse_eq_or, Option.or_eq_none_iff] at h
  obtain ⟨hcount, hclass, hcatch, hmode, hlexeme, hcells⟩ := h
  obtain ⟨hclassCount, hrules, -, hmax⟩ := countDefect?_eq_none hcount
  obtain ⟨hcatchLt, hcatchNe⟩ := catchAllDefect?_eq_none hcatch
  obtain ⟨hmodePos, hmodeLe⟩ := modeDefect?_eq_none hmode
  have hwidth := length_row_of_transitionDefect?_eq_none hcells
  refine
    { classCount_pos := hclassCount
      rules_pos := by simpa [flatten] using List.length_pos_iff.mpr hrules
      rules_le := by simpa [flatten] using hmax
      map_lt := by simpa [flatten] using classDefect?_eq_none hclass
      catchAll_lt := hcatchLt
      catchAll_ne_zero := hcatchNe
      modeCount_pos := hmodePos
      modeCount_le := hmodeLe
      lexemeRules_lt := ?_
      cells_size := by simpa [flatten, stateCount] using length_flatten_of_width hwidth
      legalOutcome := ?_ }
  · intro rule hrule
    simp only [flatten, List.mem_toArray, List.mem_map] at hrule
    obtain ⟨number, hnumber, rfl⟩ := hrule
    obtain ⟨hlt, hne⟩ := lexemeDefect?_eq_none hlexeme number hnumber
    refine ⟨by simpa [flatten, RuleId.index] using hlt, fun heq => hne ?_⟩
    exact congrArg RuleId.number heq
  · intro state hstate cls hcls
    have hrow : definition.transitions[state]? = some definition.transitions[state] :=
      List.getElem?_eq_getElem hstate
    obtain ⟨hlen, hcell⟩ := rowDefect?_eq_none (transitionDefect?_eq_none hcells hrow)
    have hcls' : cls < definition.transitions[state].length := by
      rw [hlen]
      exact hcls
    have hcode : definition.transitions[state][cls]? = some definition.transitions[state][cls] :=
      List.getElem?_eq_getElem hcls'
    have hout : definition.flatten.outcome state cls =
        Outcome.decode definition.transitions[state][cls] := by
      rw [Automaton.outcome, outcome?_flatten hwidth hcls, hrow, Option.bind_some, hcode]
      rfl
    rw [hout]
    exact legalOutcome_of_cellDefect?_eq_none (hcell cls _ hcode)

end Definition

/-- A scanner table: an automaton that a scanner can run. -/
structure Table extends Automaton where
  /-- All look-ups stay in range and all scans end. -/
  legal : toAutomaton.Legal
  deriving DecidableEq

namespace Table

/-- The table of a definition, or the definition's first defect. -/
def ofDefinition (definition : Definition) : Except Defect Table :=
  match h : definition.defect? with
  | some defect => .error defect
  | none => .ok ⟨definition.flatten, definition.flatten_legal h⟩

/-- A definition without a defect has a table. -/
theorem ofDefinition_of_defect?_eq_none {definition : Definition}
    (h : definition.defect? = none) :
    ofDefinition definition = .ok ⟨definition.flatten, definition.flatten_legal h⟩ := by
  unfold ofDefinition
  split
  next defect hdefect => exact absurd (h.symm.trans hdefect) (Option.some_ne_none defect).symm
  next => rfl

/-- The mode in which scanning begins exists. -/
theorem modeCount_pos (table : Table) : 0 < table.modeCount := table.legal.modeCount_pos

/-- Every character class has a column. -/
theorem classOf_lt (table : Table) (next : Option Char) :
    table.classes.classOf next < table.classCount :=
  CharClasses.classOf_lt table.legal.classCount_pos table.legal.map_lt table.legal.catchAll_lt next

/-- No start state accepts a lexeme. -/
theorem outcome_ne_accept (table : Table) {mode cls : Nat} (hmode : mode < table.modeCount)
    (hcls : cls < table.classCount) (lexeme : Nat) : table.outcome mode cls ≠ .accept lexeme := by
  intro hout
  have hlegal := table.legal.legalOutcome mode
    (Nat.lt_of_lt_of_le hmode table.legal.modeCount_le) cls hcls
  rw [hout] at hlegal
  exact absurd hlegal.2 (Nat.not_le.mpr hmode)

end Table

end ScanSchema
