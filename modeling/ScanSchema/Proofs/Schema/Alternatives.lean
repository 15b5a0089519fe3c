import ScanSchema.Proofs.Schema.Findings
import ScanSchema.Schema.Nonterminal

/-!
# How the alternatives of a nonterminal are joined

Alternatives are made of their specifications and joined one after the other, while the rule is written.
Each needs the types of its fields and a span in the rule, and the first one that lacks either ends it
all. `Schema.Joins` says that a list of alternatives has both, with the fields and the spans. In these
terms `Schema.Joining` says what joining comes to: all alternatives are joined, or those in front of the
one where it ends. Byte counts are added up while the rule is written, so the induction goes over the
alternatives with the text in front of them generalized.
-/

namespace ScanSchema.Schema

open Unify

section Texts

/-- The text of some alternatives in front of another one, each with a separator behind it. -/
def textInFront (alternatives : List (List Field)) : String :=
  String.join (alternatives.map fun fields => alternativeText fields ++ separator)

/-- Nothing stands in front of the first alternative. -/
theorem append_textInFront_nil (front : String) : front ++ textInFront [] = front :=
  String.append_empty

/-- The text in front of an alternative begins with the first alternative. -/
theorem textInFront_cons (fields : List Field) (rest : List (List Field)) :
    textInFront (fields :: rest) = alternativeText fields ++ separator ++ textInFront rest := by
  rw [textInFront, List.map_cons, String.join_cons, textInFront]

/-- An alternative follows, with separators between them, those in front of it. -/
theorem exists_rightHandSide_eq {alternatives : List (List Field)} {index : Nat}
    {fields : List Field} (h : alternatives[index]? = some fields) :
    ∃ back, rightHandSide alternatives =
      textInFront (alternatives.take index) ++ alternativeText fields ++ back := by
  induction alternatives generalizing index with
  | nil => cases h
  | cons first rest ih =>
    cases index with
    | zero =>
      cases h
      cases rest with
      | nil => exact ⟨"", by simp [rightHandSide, textInFront]⟩
      | cons second rest =>
        exact ⟨separator ++ rightHandSide (second :: rest), by
          simp [rightHandSide, textInFront, String.append_assoc]⟩
    | succ index =>
      obtain ⟨back, hback⟩ := ih h
      have hrest : rest ≠ [] := by
        rintro rfl
        cases h
      refine ⟨back, ?_⟩
      have hjoin : rightHandSide (first :: rest) =
          alternativeText first ++ separator ++ rightHandSide rest := by
        rw [rightHandSide, List.map_cons,
          String.intercalate_cons_of_ne_nil (by simpa using hrest), rightHandSide]
      rw [hjoin, hback, List.take_succ_cons, textInFront_cons]
      simp only [String.append_assoc]

/-- The span of a piece of a rule behind `front`. There is none if the words for its ends are the wrong
way round. -/
def pieceSpan? (front piece : String) : Option Span :=
  Span.ofOffsets? front.utf8ByteSize (front.utf8ByteSize + piece.utf8ByteSize)

/-- A piece without a span ends where offsets cannot count any more. -/
theorem offsetLimit_le_of_pieceSpan? {front piece : String} (h : pieceSpan? front piece = none) :
    Span.offsetLimit ≤ (front ++ piece).utf8ByteSize := by
  rw [String.utf8ByteSize_append]
  exact Span.offsetLimit_le_of_ofOffsets? (Nat.le_add_right _ _) h

end Texts

section Symbols

/-- The symbols of an alternative, as phrases of one field each. -/
def symbols (fields : List Field) : List Phrase := fields.map fun field => ⟨[field]⟩

/-- Joining the symbols of an alternative is joining its fields. -/
theorem concat_symbols (fields : List Field) (anchor : Span) (diagnostics : Diagnostics) :
    concat (symbols fields) anchor diagnostics =
      (joined fields, diagnostics.reportAll (concatFindings anchor fields)) := by
  have hfields : (symbols fields).flatMap (·.fields) = fields := by
    rw [symbols, List.flatMap_map, List.flatMap_singleton']
  rw [concat_eq, hfields]

/-- What is found in an alternative is what joining its fields finds. -/
theorem entries_concat_symbols (fields : List Field) (anchor : Span) :
    (concat (symbols fields) anchor ∅).2.entries = concatFindings anchor fields := by
  rw [concat_symbols]
  rfl

end Symbols

/-- Alternatives have fields, and behind `front` each of them has a span. -/
structure Joins (front : String) (specs : List (List FieldSpec)) (alternatives : List (List Field))
    (anchors : List Span) : Prop where
  /-- These are the fields. -/
  fields_eq : specs.mapM FieldSpec.toFields? = some alternatives
  /-- There is a span for each alternative. -/
  length_eq : anchors.length = alternatives.length
  /-- It is the span of the alternative's text, behind that of all alternatives in front. -/
  span : ∀ index fields, alternatives[index]? = some fields → ∃ anchor,
    anchors[index]? = some anchor ∧
      pieceSpan? (front ++ textInFront (alternatives.take index)) (alternativeText fields) =
        some anchor

namespace Joins

variable {front : String} {specs : List FieldSpec} {rest : List (List FieldSpec)}
  {fields : List Field} {alternatives : List (List Field)} {anchor : Span} {anchors : List Span}

/-- No alternatives are joined anywhere. -/
theorem nil (front : String) : Joins front [] [] [] where
  fields_eq := rfl
  length_eq := rfl
  span := fun _ _ h => nomatch h

/-- An alternative with fields and a span is joined in front of others that are joined behind it. -/
theorem cons (hfields : FieldSpec.toFields? specs = some fields)
    (hanchor : pieceSpan? front (alternativeText fields) = some anchor)
    (h : Joins (front ++ alternativeText fields ++ separator) rest alternatives anchors) :
    Joins front (specs :: rest) (fields :: alternatives) (anchor :: anchors) where
  fields_eq := by
    rw [List.mapM_cons, hfields, h.fields_eq]
    rfl
  length_eq := by rw [List.length_cons, List.length_cons, h.length_eq]
  span := by
    intro index found hfound
    cases index with
    | zero =>
      cases hfound
      refine ⟨anchor, rfl, ?_⟩
      rw [List.take_zero, append_textInFront_nil]
      exact hanchor
    | succ index =>
      obtain ⟨other, hother, hspan⟩ := h.span index found hfound
      refine ⟨other, hother, ?_⟩
      rw [List.take_succ_cons, textInFront_cons, ← String.append_assoc, ← String.append_assoc]
      exact hspan

end Joins

/-- What joining alternatives comes to, if the first of them stands behind `front`. -/
inductive Joining (nonterminal front : String) (diagnostics : Diagnostics)
    (specs : List (List FieldSpec)) :
    Except Setback (List (List Field) × List Phrase × Diagnostics) → Prop
  /-- All alternatives are joined, and the findings of each are added. -/
  | joined {alternatives : List (List Field)} {anchors : List Span}
      (joins : Joins front specs alternatives anchors) :
      Joining nonterminal front diagnostics specs (.ok (alternatives, alternatives.map joined,
        diagnostics.reportAll (List.zipWith concatFindings anchors alternatives).flatten))
  /-- Behind some that are joined an alternative has a field without types. -/
  | refused {earlier later : List (List FieldSpec)} {lacking : List FieldSpec}
      {alternatives : List (List Field)} {anchors : List Span}
      (parts : specs = earlier ++ lacking :: later)
      (joins : Joins front earlier alternatives anchors)
      (lacks : FieldSpec.toFields? lacking = none) :
      Joining nonterminal front diagnostics specs (.error (.refused ⟨nonterminal⟩))
  /-- Behind some that are joined an alternative has no span. -/
  | reversed {earlier later : List (List FieldSpec)} {long : List FieldSpec} {fields : List Field}
      {alternatives : List (List Field)} {anchors : List Span}
      (parts : specs = earlier ++ long :: later)
      (joins : Joins front earlier alternatives anchors)
      (typed : FieldSpec.toFields? long = some fields)
      (reversed : pieceSpan? (front ++ textInFront alternatives) (alternativeText fields) = none) :
      Joining nonterminal front diagnostics specs (.error (.misused .reversedSpan))

section Alternatives

variable {nonterminal front : String} {specs : List FieldSpec} {fields : List Field}
  {anchor : Span}

/-- The span of a piece, or what is misused where it has none. -/
theorem spanBetween_eq (front piece : String) :
    spanBetween front.utf8ByteSize (front.utf8ByteSize + piece.utf8ByteSize) =
      (pieceSpan? front piece).elim (.error (.misused .reversedSpan)) .ok := by
  unfold spanBetween pieceSpan?
  cases Span.ofOffsets? front.utf8ByteSize (front.utf8ByteSize + piece.utf8ByteSize) with
  | none => rfl
  | some span => rfl

/-- An alternative that lacks types is refused. -/
theorem concatAll_cons_of_none (front : String) (diagnostics : Diagnostics)
    (rest : List (List FieldSpec)) (hfields : FieldSpec.toFields? specs = none) :
    concatAll nonterminal front.utf8ByteSize diagnostics (specs :: rest) =
      .error (.refused ⟨nonterminal⟩) := by
  rw [concatAll, fieldsOf, hfields]
  rfl

/-- An alternative without a span ends it. -/
theorem concatAll_cons_of_reversed (diagnostics : Diagnostics) (rest : List (List FieldSpec))
    (hfields : FieldSpec.toFields? specs = some fields)
    (hspan : pieceSpan? front (alternativeText fields) = none) :
    concatAll nonterminal front.utf8ByteSize diagnostics (specs :: rest) =
      .error (.misused .reversedSpan) := by
  rw [concatAll, fieldsOf, hfields]
  simp only [bind, Except.bind, spanBetween_eq, hspan, Option.elim_none]

/-- Any other alternative is joined, and then those behind it. -/
theorem concatAll_cons_of_some (diagnostics : Diagnostics) (rest : List (List FieldSpec))
    (hfields : FieldSpec.toFields? specs = some fields)
    (hspan : pieceSpan? front (alternativeText fields) = some anchor) :
    concatAll nonterminal front.utf8ByteSize diagnostics (specs :: rest) =
      (concatAll nonterminal (front ++ alternativeText fields ++ separator).utf8ByteSize
        (diagnostics.reportAll (concatFindings anchor fields)) rest).map
          fun (alternatives, phrases, all) =>
            (fields :: alternatives, joined fields :: phrases, all) := by
  have hjoined := concat_symbols fields anchor diagnostics
  unfold symbols at hjoined
  rw [concatAll, fieldsOf, hfields, String.utf8ByteSize_append, String.utf8ByteSize_append]
  simp only [bind, Except.bind, spanBetween_eq, hspan, Option.elim_some, hjoined]
  cases concatAll nonterminal (front.utf8ByteSize + (alternativeText fields).utf8ByteSize +
      separator.utf8ByteSize) (diagnostics.reportAll (concatFindings anchor fields)) rest with
  | error setback => rfl
  | ok all => rfl

/-- Joining comes to one of these ends. -/
theorem joining_concatAll (nonterminal front : String) (diagnostics : Diagnostics)
    (specs : List (List FieldSpec)) :
    Joining nonterminal front diagnostics specs
      (concatAll nonterminal front.utf8ByteSize diagnostics specs) := by
  induction specs generalizing front diagnostics with
  | nil =>
    have hnone : diagnostics.reportAll [] = diagnostics :=
      congrArg Diagnostics.mk (List.append_nil _)
    have hjoined := @Joining.joined nonterminal front diagnostics _ _ _ (Joins.nil front)
    rw [List.zipWith_nil_left, List.flatten_nil, hnone] at hjoined
    exact hjoined
  | cons specs rest ih =>
    cases hfields : FieldSpec.toFields? specs with
    | none =>
      rw [concatAll_cons_of_none front diagnostics rest hfields]
      exact .refused (List.nil_append _).symm (Joins.nil front) hfields
    | some fields =>
      cases hspan : pieceSpan? front (alternativeText fields) with
      | none =>
        rw [concatAll_cons_of_reversed diagnostics rest hfields hspan]
        refine .reversed (List.nil_append _).symm (Joins.nil front) hfields ?_
        rw [append_textInFront_nil]
        exact hspan
      | some anchor =>
        rw [concatAll_cons_of_some diagnostics rest hfields hspan]
        have hrest := ih (front ++ alternativeText fields ++ separator)
          (diagnostics.reportAll (concatFindings anchor fields))
        generalize concatAll nonterminal _ _ rest = result at hrest ⊢
        cases hrest with
        | joined joins =>
          have hjoined := @Joining.joined nonterminal front diagnostics _ _ _
            (joins.cons hfields hspan)
          rw [List.zipWith_cons_cons, List.flatten_cons, ← Diagnostics.reportAll_reportAll]
            at hjoined
          exact hjoined
        | refused parts joins lacks =>
          rw [parts]
          exact .refused rfl (joins.cons hfields hspan) lacks
        | reversed parts joins typed reversed =>
          rw [parts]
          refine .reversed rfl (joins.cons hfields hspan) typed ?_
          rw [textInFront_cons, ← String.append_assoc, ← String.append_assoc]
          exact reversed

end Alternatives

end ScanSchema.Schema
