import ScanSchema.Table.Basic

/-!
# Which definitions describe a table

`Definition.WellFormed` says what a definition has to be like, part by part, and in a cell by what its
code stands for. The check finds no defect in exactly these definitions. Rows are looked at last, one
after the other, and in a row first the width and then the cells from the left. So a defect that names
a row or a cell tells that all other parts are as they should be, that the row or the cell breaks the
rule that is named, and that nothing in front of it breaks any.
-/

namespace ScanSchema

section FirstFound

variable {α β : Type} {items : List α} {find : α × Nat → Option β} {found : β}

/-- The search through numbered items finds what the first item with a find has. -/
theorem findSome?_zipIdx_eq_some_iff :
    items.zipIdx.findSome? find = some found ↔
      ∃ place item, items[place]? = some item ∧ find (item, place) = some found ∧
        ∀ earlier < place, ∀ other, items[earlier]? = some other → find (other, earlier) = none := by
  rw [List.findSome?_eq_some_iff]
  constructor
  · rintro ⟨front, ⟨item, place⟩, back, hsplit, hfound, hbefore⟩
    obtain ⟨earlier, others, rfl, rfl, hothers⟩ := List.zipIdx_eq_append_iff.mp hsplit
    obtain ⟨item, later, rfl, hitem, -⟩ := List.zipIdx_eq_cons_iff.mp hothers.symm
    obtain ⟨rfl, hplace⟩ := Prod.mk.inj hitem
    rw [hplace, Nat.zero_add] at hfound
    refine ⟨earlier.length, _, by simp, hfound, fun place hless other hother => ?_⟩
    rw [List.getElem?_append_left hless] at hother
    exact hbefore (other, place) (List.mem_zipIdx_iff_getElem?.mpr hother)
  · rintro ⟨place, item, hitem, hfound, hbefore⟩
    obtain ⟨hless, hget⟩ := List.getElem?_eq_some_iff.mp hitem
    refine ⟨(items.take place).zipIdx, (item, place), (items.drop (place + 1)).zipIdx (place + 1),
      ?_, hfound, ?_⟩
    · have hlength : (items.take place).length = place := by
        rw [List.length_take]
        omega
      calc items.zipIdx = (items.take place ++ items.drop place).zipIdx := by
            rw [List.take_append_drop]
        _ = _ := by
            rw [List.zipIdx_append, hlength, List.drop_eq_getElem_cons hless, hget,
              List.zipIdx_cons, Nat.zero_add]
    · rintro ⟨other, earlier⟩ hother
      rw [List.mem_zipIdx_iff_getElem?, List.getElem?_take] at hother
      split at hother
      next hless => exact hbefore earlier hless other hother
      · cases hother

/-- Nothing is found in a numbered list if no item in its place is looked for. -/
theorem findSome?_zipIdx_eq_none_iff :
    items.zipIdx.findSome? find = none ↔
      ∀ place item, items[place]? = some item → find (item, place) = none := by
  simp only [List.findSome?_eq_none_iff, Prod.forall, List.mem_zipIdx_iff_getElem?]
  exact forall_comm

end FirstFound

namespace Outcome

variable {code : Int32}

/-- The codes from zero on are states. -/
theorem decode_eq_goto_iff {state : Nat} : decode code = .goto state ↔ code.toInt = state := by
  unfold decode
  grind

/-- The first code below zero rejects. -/
theorem decode_eq_reject_iff : decode code = .reject ↔ code.toInt = -1 := by
  unfold decode
  grind

/-- The next code below accepts the end of the input. -/
theorem decode_eq_acceptEnd_iff : decode code = .acceptEnd ↔ code.toInt = -2 := by
  unfold decode
  grind

/-- All codes below these two accept lexemes. -/
theorem decode_eq_accept_iff {lexeme : Nat} :
    decode code = .accept lexeme ↔ code.toInt = -3 - lexeme := by
  unfold decode
  grind

end Outcome

/-- Whether a defect names a row or a cell. -/
def Defect.isInRows : Defect → Bool
  | .rowWidth .. | .gotoOutOfRange .. | .gotoOnEnd .. | .unknownLexeme .. | .emptyAccept ..
  | .misplacedEnd .. => true
  | _ => false

namespace Definition

variable {definition : Definition} {state cls : Nat} {row : List Int32} {code : Int32}
  {defect : Defect}

section Rules

/-- The codes that the cell of a state and a class may hold. -/
inductive Admits (definition : Definition) (state cls : Nat) (code : Int) : Prop
  /-- The automaton may go on to a state that exists, except at the end of the input. -/
  | goto (target : Nat) (hcode : code = target) (htarget : target < definition.transitions.length)
      (hcls : cls ≠ 0)
  /-- It may always reject. -/
  | reject (hcode : code = -1)
  /-- The end is accepted where a mode begins, at the end of the input. -/
  | acceptEnd (hcode : code = -2) (hstate : state < definition.modes) (hcls : cls = 0)
  /-- A listed lexeme is accepted where no mode begins. -/
  | accept (lexeme : Nat) (hcode : code = -3 - lexeme)
      (hlexeme : lexeme < definition.lexemeRules.length) (hstate : definition.modes ≤ state)

/-- A row has a cell for each class, and each holds a code that it may hold. -/
structure AdmitsRow (definition : Definition) (state : Nat) (row : List Int32) : Prop where
  /-- The row has as many cells as there are classes. -/
  width : row.length = definition.classCount
  /-- Every cell may hold its code. -/
  cells : ∀ cls code, row[cls]? = some code → definition.Admits state cls code.toInt

/-- What a definition has to be like apart from its rows. -/
structure Framed (definition : Definition) : Prop where
  /-- There is a class. -/
  classCount_pos : 0 < definition.classCount
  /-- There is a rule. -/
  rules_ne_nil : definition.rules ≠ []
  /-- There is a state. -/
  transitions_ne_nil : definition.transitions ≠ []
  /-- There are not more rules than rule numbers. -/
  rules_le : definition.rules.length ≤ 65536
  /-- Every listed character is in a class that exists. -/
  charClasses_lt : ∀ cls ∈ definition.charClasses, cls.toNat < definition.classCount
  /-- The catch-all class is not that of the end of the input. -/
  catchAll_pos : 1 ≤ definition.catchAll.toNat
  /-- The catch-all class exists. -/
  catchAll_lt : definition.catchAll.toNat < definition.classCount
  /-- There is a mode. -/
  modes_pos : 1 ≤ definition.modes
  /-- Every mode has its state. -/
  modes_le : definition.modes ≤ definition.transitions.length
  /-- The rule of every lexeme is declared and is not rule 0. -/
  lexemeRules_lt : ∀ rule ∈ definition.lexemeRules,
    rule.toNat < definition.rules.length ∧ rule.toNat ≠ 0

/-- What a definition has to be like. -/
structure WellFormed (definition : Definition) : Prop extends Framed definition where
  /-- Every row is as it has to be. -/
  rows : ∀ state row, definition.transitions[state]? = some row → definition.AdmitsRow state row

/-- The rule that the code of a cell breaks, as the defect that names it. A code that breaks two rules
is blamed for a state or lexeme that does not exist. -/
inductive Breaks (definition : Definition) (state cls : Nat) (code : Int) : Defect → Prop
  /-- The next state does not exist. -/
  | gotoOutOfRange (target : Nat) (hcode : code = target)
      (htarget : definition.transitions.length ≤ target) :
      Breaks definition state cls code (.gotoOutOfRange state cls target)
  /-- The automaton goes on at the end of the input. -/
  | gotoOnEnd (target : Nat) (hcode : code = target)
      (htarget : target < definition.transitions.length) (hcls : cls = 0) :
      Breaks definition state cls code (.gotoOnEnd state)
  /-- The lexeme is not listed. -/
  | unknownLexeme (lexeme : Nat) (hcode : code = -3 - lexeme)
      (hlexeme : definition.lexemeRules.length ≤ lexeme) :
      Breaks definition state cls code (.unknownLexeme state cls lexeme)
  /-- A lexeme is accepted where a mode begins. -/
  | emptyAccept (lexeme : Nat) (hcode : code = -3 - lexeme)
      (hlexeme : lexeme < definition.lexemeRules.length) (hstate : state < definition.modes) :
      Breaks definition state cls code (.emptyAccept state cls)
  /-- The end is accepted where no mode begins, or on a character. -/
  | misplacedEnd (hcode : code = -2) (hplace : definition.modes ≤ state ∨ cls ≠ 0) :
      Breaks definition state cls code (.misplacedEnd state cls)

/-- What is wrong with a row: its width, or the first cell with a code that it may not hold. -/
inductive BreaksRow (definition : Definition) (state : Nat) (row : List Int32) : Defect → Prop
  /-- The row is too short or too long. -/
  | width (hwidth : row.length ≠ definition.classCount) :
      BreaksRow definition state row (.rowWidth state definition.classCount row.length)
  /-- The row is as wide as it has to be, and all cells left of this one hold what they may. -/
  | cell {cls : Nat} {code : Int32} {defect : Defect} (hwidth : row.length = definition.classCount)
      (hcode : row[cls]? = some code)
      (hleft : ∀ earlier < cls, ∀ other, row[earlier]? = some other →
        definition.Admits state earlier other.toInt)
      (hbreaks : definition.Breaks state cls code.toInt defect) :
      BreaksRow definition state row defect

/-- The defect of the first row that is not as it has to be. -/
def FirstInRows (definition : Definition) (defect : Defect) : Prop :=
  ∃ state row, definition.transitions[state]? = some row ∧ definition.BreaksRow state row defect ∧
    ∀ earlier < state, ∀ other, definition.transitions[earlier]? = some other →
      definition.AdmitsRow earlier other

end Rules

section Cells

open Outcome

/-- Flattening keeps the number of lexeme rules. -/
@[simp] theorem size_lexemeRules_flatten :
    definition.flatten.lexemeRules.size = definition.lexemeRules.length := by
  simp [flatten]

/-- Flattening keeps the number of rules. -/
@[simp] theorem size_rules_flatten : definition.flatten.rules.size = definition.rules.length := by
  simp [flatten]

/-- What is legal in the flattened automaton may stand in the cell. -/
theorem admits_of_legalOutcome (h : definition.flatten.LegalOutcome state cls (decode code)) :
    definition.Admits state cls code.toInt := by
  cases hout : decode code with
  | goto target =>
    rw [hout] at h
    exact .goto target (decode_eq_goto_iff.mp hout) h.1 h.2
  | reject => exact .reject (decode_eq_reject_iff.mp hout)
  | acceptEnd =>
    rw [hout] at h
    exact .acceptEnd (decode_eq_acceptEnd_iff.mp hout) h.1 h.2
  | accept lexeme =>
    rw [hout] at h
    have hlexeme : lexeme < definition.lexemeRules.length := by simpa using h.1
    exact .accept lexeme (decode_eq_accept_iff.mp hout) hlexeme h.2

/-- The check of a cell passes the codes that the cell may hold. -/
theorem cellDefect?_eq_none_iff :
    definition.cellDefect? state cls (decode code) = none ↔
      definition.Admits state cls code.toInt := by
  constructor
  · exact fun hnone => admits_of_legalOutcome (legalOutcome_of_cellDefect?_eq_none hnone)
  · intro hadmits
    cases hadmits with
    | goto target hcode htarget hcls =>
      rw [decode_eq_goto_iff.mpr hcode]
      exact (if_neg (Nat.not_le.mpr htarget)).trans (if_neg hcls)
    | reject hcode => rw [decode_eq_reject_iff.mpr hcode, cellDefect?]
    | acceptEnd hcode hstate hcls =>
      rw [decode_eq_acceptEnd_iff.mpr hcode]
      exact if_neg (not_or.mpr ⟨Nat.not_le.mpr hstate, Decidable.not_not.mpr hcls⟩)
    | accept lexeme hcode hlexeme hstate =>
      rw [decode_eq_accept_iff.mpr hcode]
      exact (if_neg (Nat.not_le.mpr hlexeme)).trans (if_neg (Nat.not_lt.mpr hstate))

/-- The check of a cell names the rule that its code breaks. -/
theorem cellDefect?_eq_some_iff :
    definition.cellDefect? state cls (decode code) = some defect ↔
      definition.Breaks state cls code.toInt defect := by
  constructor
  · intro hsome
    cases hout : decode code with
    | goto target =>
      have hcode := decode_eq_goto_iff.mp hout
      simp only [hout, cellDefect?] at hsome
      split at hsome
      next htarget =>
        cases hsome
        exact .gotoOutOfRange target hcode htarget
      split at hsome
      next htarget hcls =>
        cases hsome
        exact .gotoOnEnd target hcode (Nat.not_le.mp htarget) hcls
      · cases hsome
    | reject =>
      rw [hout] at hsome
      cases hsome
    | acceptEnd =>
      simp only [hout, cellDefect?] at hsome
      split at hsome
      next hplace =>
        cases hsome
        exact .misplacedEnd (decode_eq_acceptEnd_iff.mp hout) hplace
      · cases hsome
    | accept lexeme =>
      have hcode := decode_eq_accept_iff.mp hout
      simp only [hout, cellDefect?] at hsome
      split at hsome
      next hlexeme =>
        cases hsome
        exact .unknownLexeme lexeme hcode hlexeme
      split at hsome
      next hlexeme hstate =>
        cases hsome
        exact .emptyAccept lexeme hcode (Nat.not_le.mp hlexeme) hstate
      · cases hsome
  · intro hbreaks
    cases hbreaks with
    | gotoOutOfRange target hcode htarget =>
      rw [decode_eq_goto_iff.mpr hcode]
      exact if_pos htarget
    | gotoOnEnd target hcode htarget hcls =>
      rw [decode_eq_goto_iff.mpr hcode]
      exact (if_neg (Nat.not_le.mpr htarget)).trans (if_pos hcls)
    | unknownLexeme lexeme hcode hlexeme =>
      rw [decode_eq_accept_iff.mpr hcode]
      exact if_pos hlexeme
    | emptyAccept lexeme hcode hlexeme hstate =>
      rw [decode_eq_accept_iff.mpr hcode]
      exact (if_neg (Nat.not_le.mpr hlexeme)).trans (if_pos hstate)
    | misplacedEnd hcode hplace =>
      rw [decode_eq_acceptEnd_iff.mpr hcode]
      exact if_pos hplace

end Cells

section Rows

/-- A row has no defect exactly if it is admitted. -/
theorem rowDefect?_eq_none_iff :
    definition.rowDefect? state row = none ↔ definition.AdmitsRow state row := by
  constructor
  · intro hnone
    obtain ⟨hwidth, hcells⟩ := rowDefect?_eq_none hnone
    exact ⟨hwidth, fun cls code hcode => cellDefect?_eq_none_iff.mp (hcells cls code hcode)⟩
  · rintro ⟨hwidth, hcells⟩
    rw [rowDefect?, if_pos hwidth, findSome?_zipIdx_eq_none_iff]
    exact fun cls code hcode => cellDefect?_eq_none_iff.mpr (hcells cls code hcode)

/-- The check of a row names its width, or else its first bad cell. -/
theorem rowDefect?_eq_some_iff :
    definition.rowDefect? state row = some defect ↔ definition.BreaksRow state row defect := by
  unfold rowDefect?
  split
  next hwidth =>
    simp only [findSome?_zipIdx_eq_some_iff, cellDefect?_eq_some_iff, cellDefect?_eq_none_iff]
    constructor
    · rintro ⟨cls, code, hcode, hbreaks, hleft⟩
      exact .cell hwidth hcode hleft hbreaks
    · intro hrow
      cases hrow with
      | width hne => exact absurd hwidth hne
      | cell _ hcode hleft hbreaks => exact ⟨_, _, hcode, hbreaks, hleft⟩
  next hne =>
    constructor
    · intro hsome
      cases hsome
      exact .width hne
    · intro hrow
      cases hrow with
      | width => rfl
      | cell hwidth => exact absurd hwidth hne

/-- Transitions have no defect exactly if every row is admitted. -/
theorem transitionDefect?_eq_none_iff :
    definition.transitionDefect? = none ↔
      ∀ state row, definition.transitions[state]? = some row → definition.AdmitsRow state row := by
  simp only [transitionDefect?, findSome?_zipIdx_eq_none_iff, rowDefect?_eq_none_iff]

/-- The check of the rows names what is wrong with the first bad one. -/
theorem transitionDefect?_eq_some_iff :
    definition.transitionDefect? = some defect ↔ definition.FirstInRows defect := by
  simp only [transitionDefect?, findSome?_zipIdx_eq_some_iff, rowDefect?_eq_some_iff,
    rowDefect?_eq_none_iff, FirstInRows]

/-- What is found in rows names a row or a cell. -/
theorem isInRows_of_firstInRows (h : definition.FirstInRows defect) : defect.isInRows = true := by
  obtain ⟨state, row, -, hrow, -⟩ := h
  cases hrow with
  | width => rfl
  | cell _ _ _ hbreaks => cases hbreaks <;> rfl

end Rows

section Frame

/-- The first defect that does not concern the rows. -/
def frameDefect? (definition : Definition) : Option Defect :=
  definition.countDefect? <|> definition.classDefect? <|> definition.catchAllDefect? <|>
    definition.modeDefect? <|> definition.lexemeDefect?

/-- A definition is checked apart from its rows first. -/
theorem defect?_eq_frameDefect?_or :
    definition.defect? = definition.frameDefect?.or definition.transitionDefect? := by
  simp only [defect?, frameDefect?, Option.orElse_eq_orElse, Option.orElse_eq_or, Option.or_assoc]

/-- These checks find nothing exactly in a framed definition. -/
theorem frameDefect?_eq_none_iff : definition.frameDefect? = none ↔ definition.Framed := by
  simp only [frameDefect?, Option.orElse_eq_orElse, Option.orElse_eq_or, Option.or_eq_none_iff]
  constructor
  · rintro ⟨hcount, hclass, hcatchAll, hmode, hlexeme⟩
    obtain ⟨hclassCount, hrules, htransitions, hmax⟩ := countDefect?_eq_none hcount
    obtain ⟨hcatchAllLt, hcatchAllNe⟩ := catchAllDefect?_eq_none hcatchAll
    obtain ⟨hmodes, hmodesLe⟩ := modeDefect?_eq_none hmode
    have hcatchAllPos : definition.catchAll.toNat ≠ 0 := fun h => hcatchAllNe (UInt8.toNat_inj.mp h)
    have hlexemes := lexemeDefect?_eq_none hlexeme
    exact
      { classCount_pos := hclassCount
        rules_ne_nil := hrules
        transitions_ne_nil := htransitions
        rules_le := hmax
        charClasses_lt := classDefect?_eq_none hclass
        catchAll_pos := Nat.pos_of_ne_zero hcatchAllPos
        catchAll_lt := hcatchAllLt
        modes_pos := hmodes
        modes_le := hmodesLe
        lexemeRules_lt := fun rule hrule =>
          ⟨(hlexemes rule hrule).1, fun h => (hlexemes rule hrule).2 (UInt16.toNat_inj.mp h)⟩ }
  · intro h
    have hcatchAll : definition.catchAll ≠ 0 := fun heq => by
      have hpos := h.catchAll_pos
      rw [heq] at hpos
      exact absurd hpos (by decide)
    refine ⟨?_, ?_, ?_, ?_, ?_⟩
    · have hmax : ¬ maxRules < definition.rules.length := Nat.not_lt.mpr h.rules_le
      rw [countDefect?, if_neg (Nat.ne_of_gt h.classCount_pos), if_neg h.rules_ne_nil,
        if_neg h.transitions_ne_nil, if_neg hmax]
    · rw [classDefect?, findSome?_zipIdx_eq_none_iff]
      exact fun code cls hcls =>
        if_neg (Nat.not_le.mpr (h.charClasses_lt cls (List.mem_of_getElem? hcls)))
    · exact if_neg (not_or.mpr ⟨Nat.not_le.mpr h.catchAll_lt, hcatchAll⟩)
    · exact if_neg (not_or.mpr ⟨Nat.ne_of_gt h.modes_pos, Nat.not_lt.mpr h.modes_le⟩)
    · rw [lexemeDefect?, findSome?_zipIdx_eq_none_iff]
      intro lexeme rule hrule
      obtain ⟨hlt, hne⟩ := h.lexemeRules_lt rule (List.mem_of_getElem? hrule)
      exact if_neg (not_or.mpr ⟨Nat.not_le.mpr hlt, fun heq => hne (congrArg UInt16.toNat heq)⟩)

/-- What is wrong with other parts is not named after a row or a cell. -/
theorem isInRows_of_frameDefect? (h : definition.frameDefect? = some defect) :
    defect.isInRows = false := by
  simp only [frameDefect?, Option.orElse_eq_orElse, Option.orElse_eq_or, Option.or_eq_some_iff,
    classDefect?, lexemeDefect?, findSome?_zipIdx_eq_some_iff] at h
  rcases h with hcount | ⟨-, ⟨code, cls, -, hclass, -⟩ | ⟨-, hcatchAll | ⟨-, hmode |
    ⟨-, lexeme, rule, -, hlexeme, -⟩⟩⟩⟩
  · grind [countDefect?, Defect.isInRows]
  · grind [Defect.isInRows]
  · grind [catchAllDefect?, Defect.isInRows]
  · grind [modeDefect?, Defect.isInRows]
  · grind [Defect.isInRows]

end Frame

/-- The check passes the well-formed definitions. -/
theorem defect?_eq_none_iff_wellFormed : definition.defect? = none ↔ definition.WellFormed := by
  rw [defect?_eq_frameDefect?_or, Option.or_eq_none_iff, frameDefect?_eq_none_iff,
    transitionDefect?_eq_none_iff]
  exact ⟨fun ⟨hframed, hrows⟩ => ⟨hframed, hrows⟩, fun h => ⟨h.toFramed, h.rows⟩⟩

/-- The check names the first defect in the rows exactly if all else is as it has to be. -/
theorem defect?_eq_some_inRows_iff :
    definition.defect? = some defect ∧ defect.isInRows = true ↔
      definition.Framed ∧ definition.FirstInRows defect := by
  rw [defect?_eq_frameDefect?_or, Option.or_eq_some_iff, frameDefect?_eq_none_iff,
    transitionDefect?_eq_some_iff]
  constructor
  · rintro ⟨hframe | hrows, hinRows⟩
    · exact absurd hinRows (by simp [isInRows_of_frameDefect? hframe])
    · exact hrows
  · exact fun h => ⟨.inr h, isInRows_of_firstInRows h.2⟩

end Definition

namespace Table

variable {definition : Definition} {defect : Defect}

/-- A definition has a table exactly if it has no defect. -/
theorem exists_ofDefinition_eq_ok_iff :
    (∃ table, ofDefinition definition = .ok table) ↔ definition.defect? = none := by
  constructor
  · rintro ⟨table, htable⟩
    unfold ofDefinition at htable
    split at htable
    · cases htable
    next hnone => exact hnone
  · exact fun hnone => ⟨_, ofDefinition_of_defect?_eq_none hnone⟩

/-- What keeps it from having one is its defect. -/
theorem ofDefinition_eq_error_iff :
    ofDefinition definition = .error defect ↔ definition.defect? = some defect := by
  unfold ofDefinition
  split
  next found hfound => rw [hfound, Except.error.injEq, Option.some.injEq]
  next hnone => simp [hnone]

/-- There is a table of a definition exactly if the definition is well formed, however large it is.

A defect that names a row or a cell is the answer exactly if everything but the rows is as it has to
be, the row or the cell breaks the rule that is named, and it is the first one that breaks any: all
rows in front are as they have to be, and so are, in a row of the right width, all cells on the left. -/
theorem ofDefinition_iff_wellFormed (definition : Definition) :
    ((∃ table, ofDefinition definition = .ok table) ↔ definition.WellFormed) ∧
      ∀ defect, ofDefinition definition = .error defect ∧ defect.isInRows = true ↔
        definition.Framed ∧ definition.FirstInRows defect := by
  constructor
  · rw [exists_ofDefinition_eq_ok_iff, Definition.defect?_eq_none_iff_wellFormed]
  · intro defect
    rw [ofDefinition_eq_error_iff, Definition.defect?_eq_some_inRows_iff]

end Table

end ScanSchema
