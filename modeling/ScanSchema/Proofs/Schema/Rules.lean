import ScanSchema.Proofs.Schema.Nonterminals

/-!
# Where findings about a nonterminal point

The schema of a nonterminal comes with the nonterminal written out as a rule, and findings are shown
in that text. `Schema.Explains` says what the text is and what the findings are: a block for each
alternative, with what is wrong with the alternative alone, and behind these a block with what is
wrong with the alternatives together. Every finding points at the piece of the rule that it is
about.
-/

namespace ScanSchema

/-- A span takes exactly one piece out of a text, the piece behind `front`. Its ends fit words of 32
bits, so that no bits are lost where such words are used for them. -/
structure Span.Covers (span : Span) (text front piece : String) : Prop where
  /-- The piece follows `front`. -/
  parts : ∃ back, text = front ++ piece ++ back
  /-- The span starts behind `front`. -/
  start_eq : span.start = front.utf8ByteSize
  /-- It stops behind the piece. -/
  stop_eq : span.stop = front.utf8ByteSize + piece.utf8ByteSize
  /-- Both ends are words of 32 bits. -/
  stop_lt : span.stop < Span.offsetLimit

/-- In a text whose size is a word of 32 bits, the span of a piece covers the piece. -/
theorem Span.covers_of_pieceSpan? {span : Span} {text front piece back : String}
    (htext : text = front ++ piece ++ back) (hspan : Schema.pieceSpan? front piece = some span)
    (hsize : text.utf8ByteSize < Span.offsetLimit) : span.Covers text front piece := by
  rw [htext, String.utf8ByteSize_append, String.utf8ByteSize_append] at hsize
  have hlimit : front.utf8ByteSize + piece.utf8ByteSize < Span.offsetLimit := by omega
  obtain ⟨hstart, hstop⟩ :=
    (Span.ofOffsets?_eq_some_iff (Nat.le_add_right _ _) hlimit).mp hspan
  exact ⟨⟨back, htext⟩, hstart, hstop, hstop ▸ hlimit⟩

namespace Schema

open Unify

/-- A finding points at the alternative number `index` of a rule, and is of a kind that joining its
fields can report. -/
structure PointsAtAlternative (schema : Schema) (alternatives : List (List Field)) (index : Nat)
    (fields : List Field) (finding : Diagnostic) : Prop where
  /-- The span takes the alternative out of the rule, and nothing else. -/
  covers : finding.span.Covers schema.rule
    (leftHandSide schema.name ++ textInFront (alternatives.take index)) (alternativeText fields)
  /-- Neither an order of names nor a slot is a matter of one alternative. -/
  kind_not_mem : finding.kind ∉ [.inconsistentFieldOrder, .incompatibleFields]

/-- A finding points at all alternatives of a rule, and is of a kind that merging them can report. -/
structure PointsAtRightHandSide (schema : Schema) (alternatives : List (List Field))
    (finding : Diagnostic) : Prop where
  /-- The span takes the whole right-hand side out of the rule. -/
  covers : finding.span.Covers schema.rule (leftHandSide schema.name) (rightHandSide alternatives)
  /-- Repeats are a matter of one alternative. -/
  kind_ne : finding.kind ≠ .duplicateSignature

/-- The rule of a schema is the nonterminal with the given name and fields, and its findings are
those about its alternatives, block by block, and behind these the ones about the merge. -/
structure Explains (schema : Schema) (name : String) (alternatives : List (List Field))
    (blocks : List (List Diagnostic)) (merged : List Diagnostic) : Prop where
  /-- The schema is about that nonterminal. -/
  name_eq : schema.name = name
  /-- The rule names the nonterminal, and then shows the fields of each alternative. -/
  rule_eq : schema.rule = name ++ " ::= " ++
    " | ".intercalate (alternatives.map fun fields => " ".intercalate (fields.map Field.toText))
  /-- The blocks of the alternatives come in turn, and the block of the merge comes last. -/
  entries_eq : schema.diagnostics.entries = blocks.flatten ++ merged
  /-- There are no other blocks than those of the alternatives. -/
  length_eq : blocks.length = alternatives.length
  /-- The block of an alternative is what joining its fields reports, and points at it. -/
  block : ∀ index fields, alternatives[index]? = some fields → ∃ anchor,
    blocks[index]? = some (concat (symbols fields) anchor ∅).2.entries ∧
      ∀ finding ∈ (concat (symbols fields) anchor ∅).2.entries,
        schema.PointsAtAlternative alternatives index fields finding
  /-- The last block is what merging the joined alternatives reports, and points at all of them. -/
  merge : ∃ anchor,
    merged = (merge name (alternatives.map fun fields => (concat (symbols fields) anchor ∅).1)
      anchor ∅).diagnostics.entries ∧
      ∀ finding ∈ merged, schema.PointsAtRightHandSide alternatives finding

section Schemas

variable {name : String} {alternatives : List (List Field)} {anchors : List Span} {anchor : Span}

/-- What is found while an alternative is joined points at the alternative. -/
theorem pointsAtAlternative {index : Nat} {fields : List Field} {place : Span}
    {finding : Diagnostic}
    (hsize : (leftHandSide name ++ rightHandSide alternatives).utf8ByteSize < Span.offsetLimit)
    (hindex : alternatives[index]? = some fields)
    (hplace : pieceSpan? (leftHandSide name ++ textInFront (alternatives.take index))
      (alternativeText fields) = some place)
    (hfinding : finding ∈ concatFindings place fields) :
    (unified name alternatives anchors anchor).PointsAtAlternative alternatives index fields
      finding := by
  obtain ⟨back, hback⟩ := exists_rightHandSide_eq hindex
  obtain ⟨hspan, hkind⟩ := of_mem_concatFindings hfinding
  have hrule : (unified name alternatives anchors anchor).rule =
      leftHandSide name ++ textInFront (alternatives.take index) ++ alternativeText fields ++
        back := by
    have hright : (unified name alternatives anchors anchor).rule =
        leftHandSide name ++ rightHandSide alternatives := rfl
    rw [hright, hback]
    simp only [String.append_assoc]
  constructor
  · rw [hspan]
    exact Span.covers_of_pieceSpan? hrule hplace hsize
  · revert hkind
    cases finding.kind <;> decide

/-- What is found while the joined alternatives are merged points at all of them. -/
theorem pointsAtRightHandSide {finding : Diagnostic}
    (hsize : (leftHandSide name ++ rightHandSide alternatives).utf8ByteSize < Span.offsetLimit)
    (hanchor : pieceSpan? (leftHandSide name) (rightHandSide alternatives) = some anchor)
    (hfinding : finding ∈ mergeFindings anchor (alternatives.map joined)) :
    (unified name alternatives anchors anchor).PointsAtRightHandSide alternatives finding := by
  have hnodup : ∀ phrase ∈ alternatives.map joined,
      (phrase.fields.map Field.signature).Nodup := by
    intro phrase hphrase
    obtain ⟨fields, -, rfl⟩ := List.mem_map.mp hphrase
    exact nodup_joined fields
  obtain ⟨hspan, hkind⟩ := of_mem_mergeFindings hnodup hfinding
  refine ⟨?_, hkind⟩
  rw [hspan]
  exact Span.covers_of_pieceSpan? String.append_empty.symm hanchor hsize

/-- The findings of a schema are the blocks of its alternatives and that of the merge. -/
theorem explains_unified {specs : List (List FieldSpec)}
    (hjoins : Joins (leftHandSide name) specs alternatives anchors)
    (hanchor : pieceSpan? (leftHandSide name) (rightHandSide alternatives) = some anchor)
    (hsize : (leftHandSide name ++ rightHandSide alternatives).utf8ByteSize < Span.offsetLimit) :
    (unified name alternatives anchors anchor).Explains name alternatives
      (List.zipWith concatFindings anchors alternatives)
      (mergeFindings anchor (alternatives.map joined)) where
  name_eq := rfl
  rule_eq := rfl
  entries_eq := by
    simp only [unified, diagnostics_merge, Diagnostics.entries_reportAll, Diagnostics.entries_empty,
      List.nil_append]
  length_eq := by rw [List.length_zipWith, hjoins.length_eq, Nat.min_self]
  block := by
    intro index fields hindex
    obtain ⟨place, hplace, hspan⟩ := hjoins.span index fields hindex
    refine ⟨place, ?_⟩
    rw [entries_concat_symbols, List.getElem?_zipWith, hplace, hindex]
    exact ⟨rfl, fun finding => pointsAtAlternative hsize hindex hspan⟩
  merge := by
    have hjoined : (alternatives.map fun fields => (concat (symbols fields) anchor ∅).1) =
        alternatives.map joined :=
      List.map_congr_left fun fields _ => congrArg Prod.fst (concat_symbols fields anchor ∅)
    refine ⟨anchor, ?_, fun finding => pointsAtRightHandSide hsize hanchor⟩
    rw [hjoined, diagnostics_merge]
    rfl

end Schemas

/-- Nonterminals that have schemas are explained by them: every schema shows its nonterminal as a
rule and comes with a block of findings for each alternative and one for their merge, and every
finding points at the alternative, or at all alternatives, that it is about. -/
theorem explains_of_ofNonterminals {nonterminals : List Nonterminal} {schemas : List Schema}
    (h : ofNonterminals nonterminals = .ok schemas) :
    List.Forall₂ (fun nonterminal schema =>
      schema.rule.utf8ByteSize < Span.offsetLimit → ∃ alternatives blocks merged,
        nonterminal.alternatives.mapM (·.mapM FieldSpec.toField?) = some alternatives ∧
          schema.Explains nonterminal.name alternatives blocks merged) nonterminals schemas := by
  refine (forall₂_of_mapM_eq_ok h).imp fun nonterminal schema hschema hsize => ?_
  obtain ⟨alternatives, anchors, anchor, rfl, hjoins, hanchor⟩ := exists_of_ofNonterminal hschema
  exact ⟨alternatives, _, _, hjoins.fields_eq, explains_unified hjoins hanchor hsize⟩

/-- A nonterminal with a letter of two bytes in its name, a field that comes twice in the first
alternative, an alternative without fields, and two that disagree on the order of names. -/
def sizes : Nonterminal :=
  ⟨"Größe", [[{ types := ["A"] }, { types := ["A"] }], [],
    [{ name := "x", types := ["B"] }, { name := "y", types := ["C"] }],
    [{ name := "y", types := ["C"] }, { name := "x", types := ["B"] }]]⟩

/-- The repeated field is shown in the first alternative, and the disagreement in all of them. -/
theorem explains_of_ofNonterminals_sizes :
    ∃ schema, ofNonterminals [sizes] = .ok [schema] ∧
      schema.rule = "Größe ::= A A |  | x=B y=C | y=C x=B" ∧
      schema.diagnostics.entries.map (fun finding => (finding.kind, finding.span)) =
        [(.duplicateSignature, ⟨12, 15, by decide⟩),
          (.inconsistentFieldOrder, ⟨12, 38, by decide⟩)] ∧
      schema.rule.utf8ByteSize < Span.offsetLimit ∧
      ∃ alternatives blocks merged,
        sizes.alternatives.mapM (·.mapM FieldSpec.toField?) = some alternatives ∧
          schema.Explains sizes.name alternatives blocks merged := by
  have h : ofNonterminals [sizes] = .ok [unified "Größe"
      [[.unnamed "A", .unnamed "A"], [],
        [.ofTypes (some "x") (.single "B") false, .ofTypes (some "y") (.single "C") false],
        [.ofTypes (some "y") (.single "C") false, .ofTypes (some "x") (.single "B") false]]
      [⟨12, 15, by decide⟩, ⟨18, 18, by decide⟩, ⟨21, 28, by decide⟩, ⟨31, 38, by decide⟩]
      ⟨12, 38, by decide⟩] := by
    decide +kernel
  refine ⟨_, h, by decide +kernel, by decide +kernel, by decide +kernel, ?_⟩
  obtain ⟨hexplains, -⟩ := List.forall₂_cons.mp (explains_of_ofNonterminals h)
  exact hexplains (by decide +kernel)

end Schema

end ScanSchema
