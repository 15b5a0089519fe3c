import Mathlib.Data.List.Defs
import ScanSchema.Proofs.Table.Acceptance
import ScanSchema.Table.Braces

/-!
# Flattened tables and their definitions

A definition has no defect exactly when its rows are as wide as they say and the automaton it
flattens to is legal. The definition of a legal automaton has rows of that width, and they flatten to
the automaton's own cells, so a table comes back from its definition. The other way round nothing of a
definition is lost in its table: as all rows have the same width, which is not zero, the cells that
stand behind each other can be cut into the rows again, and every cell is found by its index.
-/

namespace ScanSchema

section Rows

variable {width count : Nat} {codes : List Int32}

/-- The codes are split into as many rows as are asked for. -/
theorem length_splitRows (width count : Nat) (codes : List Int32) :
    (splitRows width count codes).length = count := by
  induction count generalizing codes with
  | zero => rfl
  | succ count ih => rw [splitRows, List.length_cons, ih]

/-- If the codes fill the rows, every row has the width. -/
theorem length_of_mem_splitRows (h : codes.length = count * width) :
    ∀ row ∈ splitRows width count codes, row.length = width := by
  induction count generalizing codes with
  | zero => simp [splitRows]
  | succ count ih =>
    rw [Nat.succ_mul] at h
    intro row hrow
    rcases List.mem_cons.mp hrow with rfl | hrow
    · rw [List.length_take]
      omega
    · exact ih (by rw [List.length_drop]; omega) row hrow

/-- If they fill the rows, putting the rows behind each other gives them back. -/
theorem flatten_splitRows (h : codes.length = count * width) :
    (splitRows width count codes).flatten = codes := by
  induction count generalizing codes with
  | zero => rw [List.eq_nil_of_length_eq_zero (by omega : codes.length = 0)]; rfl
  | succ count ih =>
    rw [Nat.succ_mul] at h
    rw [splitRows, List.flatten_cons, ih (by rw [List.length_drop]; omega), List.take_append_drop]

/-- Until a row is full, codes are taken one by one. -/
theorem toChunks_go_append (row rest : List Int32) (taken : Array Int32) (done : Array (List Int32))
    (h : taken.size + row.length ≤ width) :
    List.toChunks.go width (row ++ rest) taken done =
      List.toChunks.go width rest (taken ++ row) done := by
  induction row generalizing taken with
  | nil => simp
  | cons code row ih =>
    rw [List.length_cons] at h
    have hroom : ¬(taken.size == width) = true := by simpa using (by omega : taken.size ≠ width)
    rw [List.cons_append, List.toChunks.go, if_neg hroom, ih _ (by rw [Array.size_push]; omega)]
    simp

/-- So a row that was begun is completed. -/
theorem toChunks_go_row {code : Int32} {codes : List Int32} (rest : List Int32)
    (done : Array (List Int32)) (hrow : (code :: codes).length = width) :
    List.toChunks.go width (codes ++ rest) #[code] done =
      List.toChunks.go width rest (code :: codes).toArray done := by
  rw [toChunks_go_append codes rest #[code] done (by simpa [Nat.add_comm] using Nat.le_of_eq hrow)]
  simp

/-- Behind a full row the next one begins. -/
theorem toChunks_go_flatten {rows : List (List Int32)} {taken : Array Int32}
    (done : Array (List Int32)) (hpos : 0 < width) (htaken : taken.size = width)
    (h : ∀ row ∈ rows, row.length = width) :
    List.toChunks.go width rows.flatten taken done = done.toList ++ taken.toList :: rows := by
  induction rows generalizing taken done with
  | nil => simp [List.toChunks.go]
  | cons row rows ih =>
    obtain ⟨hrow, hrows⟩ := List.forall_mem_cons.mp h
    obtain ⟨code, codes, rfl⟩ := List.exists_cons_of_length_pos (hrow ▸ hpos)
    have hfull : (taken.size == width) = true := by simpa using htaken
    have hbegun : (Array.mkEmpty width).push code = #[code] := rfl
    rw [List.flatten_cons, List.cons_append, List.toChunks.go, if_pos hfull, hbegun,
      toChunks_go_row _ _ hrow, ih _ hrow hrows]
    simp

/-- To find rows again that stand behind each other, their width is enough; how many there are need
not be known. -/
theorem toChunks_flatten {rows : List (List Int32)} (hpos : 0 < width)
    (h : ∀ row ∈ rows, row.length = width) : rows.flatten.toChunks width = rows := by
  cases rows with
  | nil => rfl
  | cons row rows =>
    obtain ⟨hrow, hrows⟩ := List.forall_mem_cons.mp h
    obtain ⟨code, codes, rfl⟩ := List.exists_cons_of_length_pos (hrow ▸ hpos)
    rw [List.flatten_cons, List.cons_append, List.toChunks, toChunks_go_row _ _ hrow,
      toChunks_go_flatten _ hpos hrow hrows]
    · rfl
    · exact Nat.ne_of_gt hpos

end Rows

namespace Definition

variable {definition : Definition}

/-- What a legal automaton tells of its definition, apart from the rows. -/
theorem framed_of_legal (hlegal : definition.flatten.Legal) : definition.Framed where
  classCount_pos := hlegal.classCount_pos
  rules_ne_nil := List.length_pos_iff.mp (by simpa using hlegal.rules_pos)
  transitions_ne_nil :=
    List.length_pos_iff.mp (Nat.lt_of_lt_of_le hlegal.modeCount_pos hlegal.modeCount_le)
  rules_le := by simpa [maxRules] using hlegal.rules_le
  charClasses_lt cls hcls := hlegal.map_lt cls (List.mem_toArray.mpr hcls)
  catchAll_pos := Nat.pos_of_ne_zero fun h => hlegal.catchAll_ne_zero (UInt8.toNat_inj.mp h)
  catchAll_lt := hlegal.catchAll_lt
  modes_pos := hlegal.modeCount_pos
  modes_le := hlegal.modeCount_le
  lexemeRules_lt rule hrule := by
    obtain ⟨hlt, hne⟩ :=
      hlegal.lexemeRules_lt ⟨rule⟩ (List.mem_toArray.mpr (List.mem_map_of_mem hrule))
    rw [size_rules_flatten] at hlt
    exact ⟨hlt, fun h => hne (congrArg RuleId.mk (UInt16.toNat_inj.mp h))⟩

/-- Legality speaks of the cells of the flat array; only in rows of the declared width are these
the cells that the definition has. -/
theorem wellFormed_of_legal (hlegal : definition.flatten.Legal)
    (hwidth : ∀ row ∈ definition.transitions, row.length = definition.classCount) :
    definition.WellFormed := by
  refine ⟨framed_of_legal hlegal, fun state row hrow => ?_⟩
  have hlen : row.length = definition.classCount := hwidth row (List.mem_of_getElem? hrow)
  refine ⟨hlen, fun cls code hcode => admits_of_legalOutcome ?_⟩
  obtain ⟨hstate, -⟩ := List.getElem?_eq_some_iff.mp hrow
  obtain ⟨hcls, -⟩ := List.getElem?_eq_some_iff.mp hcode
  rw [hlen] at hcls
  have hcell := hlegal.legalOutcome state hstate cls hcls
  rwa [Automaton.outcome, outcome?_flatten hwidth hcls, hrow, Option.bind_some, hcode] at hcell

/-- All rows of a well-formed definition have a cell for each class. -/
theorem WellFormed.length_row (h : definition.WellFormed) :
    ∀ row ∈ definition.transitions, row.length = definition.classCount := by
  intro row hrow
  obtain ⟨state, hstate⟩ := List.getElem?_of_mem hrow
  exact (h.rows state row hstate).width

/-- The check is exact: it passes the definitions whose rows have the declared width and that
flatten to a legal automaton, and no others. -/
theorem defect?_eq_none_iff :
    definition.defect? = none ↔
      (∀ row ∈ definition.transitions, row.length = definition.classCount) ∧
        definition.flatten.Legal := by
  constructor
  · exact fun h => ⟨(defect?_eq_none_iff_wellFormed.mp h).length_row, flatten_legal h⟩
  · rintro ⟨hwidth, hlegal⟩
    exact defect?_eq_none_iff_wellFormed.mpr (wellFormed_of_legal hlegal hwidth)

end Definition

namespace Automaton

variable {automaton : Automaton}

/-- The definition of an automaton flattens to it, if there is a cell for every state and class. -/
theorem flatten_toDefinition
    (h : automaton.cells.size = automaton.stateCount * automaton.classCount) :
    automaton.toDefinition.flatten = automaton := by
  have hcells : (splitRows automaton.classCount automaton.stateCount
      automaton.cells.toList).flatten = automaton.cells.toList :=
    flatten_splitRows (by rw [Array.length_toList, h])
  have hrules : automaton.lexemeRules.toList.map (RuleId.mk ∘ RuleId.number) =
      automaton.lexemeRules.toList := List.map_id _
  simp only [Definition.flatten, toDefinition, Definition.stateCount, length_splitRows, hcells,
    List.map_map, hrules, Array.toArray_toList]

/-- The definition of a legal automaton passes the check. -/
theorem Legal.defect?_toDefinition (h : automaton.Legal) :
    automaton.toDefinition.defect? = none := by
  refine Definition.defect?_eq_none_iff.mpr ⟨?_, ?_⟩
  · exact length_of_mem_splitRows (by rw [Array.length_toList, h.cells_size])
  · rw [flatten_toDefinition h.cells_size]
    exact h

end Automaton

namespace Table

variable {definition : Definition} {table : Table}

/-- A table comes back from its definition. -/
theorem ofDefinition_toDefinition (table : Table) :
    ofDefinition table.toDefinition = .ok table := by
  have hcheck := table.legal.defect?_toDefinition
  have hflat := Automaton.flatten_toDefinition table.legal.cells_size
  obtain ⟨automaton, hlegal⟩ := table
  rw [ofDefinition_of_defect?_eq_none hcheck]
  congr 1
  exact Table.mk.injEq _ _ _ _ |>.mpr hflat

/-- The table of a definition is the definition with its rows behind each other. -/
theorem toAutomaton_eq_flatten (h : ofDefinition definition = .ok table) :
    definition.WellFormed ∧ table.toAutomaton = definition.flatten := by
  have hnone := exists_ofDefinition_eq_ok_iff.mp ⟨table, h⟩
  cases (ofDefinition_of_defect?_eq_none hnone).symm.trans h
  exact ⟨Definition.defect?_eq_none_iff_wellFormed.mp hnone, rfl⟩

end Table

namespace Definition

variable {definition : Definition}

/-- A definition whose rows have the declared width comes back from its automaton. -/
theorem toDefinition_flatten
    (h : ∀ row ∈ definition.transitions, row.length = definition.classCount) :
    definition.flatten.toDefinition = definition := by
  have hrows : splitRows definition.classCount definition.stateCount definition.transitions.flatten =
      definition.transitions := splitRows_flatten h
  have hrules : definition.lexemeRules.map (RuleId.number ∘ RuleId.mk) = definition.lexemeRules :=
    List.map_id _
  simp only [Automaton.toDefinition, flatten, List.toList_toArray, hrows, List.map_map, hrules]

/-- In a well-formed definition every state has a code for every class. -/
theorem WellFormed.exists_code (h : definition.WellFormed) {state cls : Nat}
    (hstate : state < definition.transitions.length) (hcls : cls < definition.classCount) :
    ∃ row code, definition.transitions[state]? = some row ∧ row[cls]? = some code := by
  have hrow := List.getElem?_eq_getElem hstate
  have hwidth := (h.rows state _ hrow).width
  exact ⟨_, _, hrow, List.getElem?_eq_getElem (by rwa [hwidth])⟩

end Definition

namespace Table

variable {definition : Definition} {table : Table}

/-- Nothing of a definition is lost in its table. The definition comes back, and so does the table
from it; a state is a row, and there are as many as the cells fill at the width of a row; cut at that
width, the cells are the rows; and a look-up of a state and a class brings what the code in the class
of the state's row means. -/
theorem toDefinition_of_ofDefinition (h : ofDefinition definition = .ok table) :
    table.toDefinition = definition ∧ ofDefinition table.toDefinition = .ok table ∧
      table.stateCount = definition.transitions.length ∧
      table.cells.size / table.classCount = definition.transitions.length ∧
      table.cells.toList.toChunks table.classCount = definition.transitions ∧
      ∀ state < table.stateCount, ∀ cls < table.classCount,
        ∃ row code, definition.transitions[state]? = some row ∧ row[cls]? = some code ∧
          table.lookUp state cls = .ok (Outcome.decode code) ∧
          table.outcome state cls = Outcome.decode code := by
  obtain ⟨hwell, hflat⟩ := toAutomaton_eq_flatten h
  have hwidth := hwell.length_row
  have hsize : definition.transitions.flatten.length =
      definition.transitions.length * definition.classCount := length_flatten_of_width hwidth
  rw [hflat]
  refine ⟨Definition.toDefinition_flatten hwidth, ?_, rfl, ?_, ?_, ?_⟩
  · rw [Definition.toDefinition_flatten hwidth, h]
  · rw [Definition.flatten, List.size_toArray, hsize, Nat.mul_div_cancel _ hwell.classCount_pos]
  · exact toChunks_flatten hwell.classCount_pos hwidth
  · intro state hstate cls hcls
    obtain ⟨row, code, hrow, hcode⟩ := hwell.exists_code hstate hcls
    have hout : definition.flatten.outcome? state cls = some (Outcome.decode code) := by
      rw [Definition.outcome?_flatten hwidth hcls, hrow, Option.bind_some, hcode, Option.map_some]
    exact ⟨row, code, hrow, hcode, by rw [Automaton.lookUp, hout],
      by rw [Automaton.outcome, hout, Option.getD_some]⟩

/-- The table for action code has ten rows, and in that of a single quote a backslash leads on. -/
theorem toDefinition_of_ofDefinition_braces :
    ofDefinition .braces = .ok braces ∧ braces.toDefinition = .braces ∧
      braces.cells.toList.toChunks 8 = braceTransitions ∧ braces.stateCount = 10 ∧
      braces.lookUp 3 4 = .ok (.goto 7) := by
  have h : ofDefinition .braces = .ok braces :=
    ofDefinition_of_defect?_eq_none Definition.defect?_braces
  obtain ⟨hback, -, hstates, -, hrows, hcells⟩ := toDefinition_of_ofDefinition h
  refine ⟨h, hback, hrows, hstates, ?_⟩
  obtain ⟨row, code, hrow, hcode, hlook, -⟩ := hcells 3 (by decide) 4 (by decide)
  cases hrow
  cases hcode
  exact hlook

end Table

end ScanSchema
