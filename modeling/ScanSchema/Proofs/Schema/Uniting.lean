import ScanSchema.Proofs.Schema.Findings
import ScanSchema.Proofs.Schema.Occurrences

/-!
# What stands for a slot

Alternatives that are not all one mergeable field are merged slot by slot. Every further field of a
signature in one alternative is reported and counts no more. If nothing collapses the answer has one
field for each signature, in the order of first appearance: the occurrence itself where there is one,
and what merging makes of them where there are several. It may be empty if an occurrence may be or if
an alternative has none. For that the number of occurrences is compared with that of alternatives,
and as each alternative brings at most one occurrence, the two differ exactly if one is missing.
-/

namespace ScanSchema

/-- The field that a merge makes of the occurrences of a signature. -/
structure Field.StandsFor (field : Field) (phrases : List Phrase) (signature : Signature) : Prop where
  /-- Apart from whether it may be empty, it is the occurrence if there is one, and the merged
  occurrences if there are several. -/
  united : ∃ base, field = { base with isNullable := field.isNullable } ∧
    (Unify.occurrences phrases signature = [base] ∨
      1 < (Unify.occurrences phrases signature).length ∧
        Field.merge? none (Unify.occurrences phrases signature) = some base)
  /-- It may be empty if an occurrence may be, or if an alternative has no such field. -/
  isNullable_iff : field.isNullable = true ↔
    (∃ occurrence ∈ Unify.occurrences phrases signature, occurrence.isNullable = true) ∨
      ∃ phrase ∈ phrases, ∀ other ∈ phrase.fields, other.signature ≠ signature

namespace Unify

variable {phrases : List Phrase} {field : Field} {fields : List Field} {signature : Signature}
  {anchor : Span}

/-- There are fewer occurrences than alternatives exactly if an alternative has none. -/
theorem length_occurrences_lt_iff :
    (occurrences phrases signature).length < phrases.length ↔
      ∃ phrase ∈ phrases, ∀ other ∈ phrase.fields, other.signature ≠ signature := by
  have hnone : ∀ phrase : Phrase,
      (phrase.fields.find? fun field => field.signature = signature) = none ↔
        ∀ other ∈ phrase.fields, other.signature ≠ signature := fun phrase => by
    simp only [List.find?_eq_none, decide_eq_true_eq, ne_eq]
  rw [occurrences, List.length_filterMap_lt_length_iff_exists]
  simp only [hnone, exists_prop]

/-- The occurrences of a slot are united to the only one or to what merging makes of them. -/
theorem unifyBucket?_eq_some (h : unifyBucket? fields = some field) :
    fields = [field] ∨ 1 < fields.length ∧ Field.merge? none fields = some field := by
  unfold unifyBucket? at h
  split at h
  next only =>
    cases h
    exact .inl rfl
  next hmany =>
    match fields with
    | [] => cases h
    | [only] => exact absurd rfl (hmany only)
    | _ :: _ :: _ => exact .inr ⟨by simp, h⟩

/-- The field that a slot is united to stands for it. -/
theorem standsFor_of_composite?
    (h : composite? phrases.length (occurrences phrases signature) = some field) :
    field.StandsFor phrases signature := by
  have hnullable := (unites_of_composite? h).isNullable_iff
  rw [length_occurrences_lt_iff] at hnullable
  obtain ⟨base, hbase, hfield⟩ := Option.map_eq_some_iff.mp h
  refine ⟨⟨base, ?_, unifyBucket?_eq_some hbase⟩, hnullable⟩
  subst hfield
  split <;> rfl

/-- If no slot is broken, there is one field for each signature, and it stands for the signature. -/
theorem forall₂_standsFor_united (h : broken phrases = []) :
    List.Forall₂ (fun signature field => field.StandsFor phrases signature)
      (slotSignatures (phrases.flatMap (·.fields))) (united phrases) := by
  have hslots := forall₂_united h
  rw [slots_eq, List.forall₂_map_left_iff] at hslots
  exact hslots.imp fun _ _ => standsFor_of_composite?

/-- In general repeats are reported first, and nothing that is reported behind them is a repeat. -/
theorem entries_mergeGeneral (name : String) (phrases : List Phrase) (anchor : Span)
    (diagnostics : Diagnostics) :
    ∃ others, (mergeGeneral name phrases anchor diagnostics).diagnostics.entries =
        diagnostics.entries ++
          (phrases.flatMap fun phrase => furtherFields phrase.fields).map (duplicate anchor) ++
          others ∧
      ∀ other ∈ others, other.kind ≠ .duplicateSignature := by
  refine ⟨orderFindings anchor phrases ++ lateFindings anchor phrases, ?_, fun other hother => ?_⟩
  · rw [diagnostics_mergeGeneral_eq_late, Diagnostics.entries_reportAll, earlyFindings_eq, repeats_eq]
    simp only [List.append_assoc]
  · rcases List.mem_append.mp hother with horder | hlate
    · rw [eq_of_mem_orderFindings horder]
      exact DiagnosticKind.noConfusion
    · exact ne_duplicateSignature_of_mem_collapseKinds (kind_mem_collapseKinds hlate)

/-- If nothing is reported after which nothing is left of a phrase, the answer is the united fields,
and no slot is broken. -/
theorem phrase_mergeGeneral_of_count_eq (name : String) (phrases : List Phrase) (anchor : Span)
    (diagnostics : Diagnostics)
    (h : ∀ kind ∈ collapseKinds,
      (mergeGeneral name phrases anchor diagnostics).diagnostics.count kind =
        diagnostics.count kind) :
    broken phrases = [] ∧
      (mergeGeneral name phrases anchor diagnostics).phrase = ⟨united phrases⟩ := by
  have hlate : lateFindings anchor phrases = [] := by
    refine List.eq_nil_iff_forall_not_mem.mpr fun finding hfinding => ?_
    have hadded : finding ∈ earlyFindings anchor phrases ++ lateFindings anchor phrases :=
      List.mem_append_right _ hfinding
    have hentries := congrArg Diagnostics.entries
      (diagnostics_mergeGeneral_eq_late name phrases anchor diagnostics)
    exact Diagnostics.kind_ne_of_count_eq hentries (h _ (kind_mem_collapseKinds hfinding)) finding
      hadded rfl
  refine ⟨(lateFindings_eq_nil_iff.mp hlate).1, ?_⟩
  rw [phrase_mergeGeneral_eq_late, if_pos hlate]

end Unify

/-- A merge of alternatives that are not all one mergeable field reports every further field of a
signature in its alternative. If it does not collapse, it answers with one field for each signature in
the order of first appearance, and that stands for all occurrences. -/
theorem Phrase.forall₂_standsFor_merge (name : String) (phrases : List Phrase) (anchor : Span)
    (diagnostics : Diagnostics) (h : phrases.all Phrase.isSingleElement = false) :
    (∃ others, (merge name phrases anchor diagnostics).diagnostics.entries =
        diagnostics.entries ++
          (phrases.flatMap fun phrase => Unify.furtherFields phrase.fields).map
            (Unify.duplicate anchor) ++
          others ∧
      ∀ other ∈ others, other.kind ≠ .duplicateSignature) ∧
    ((∀ kind ∈ Unify.collapseKinds,
        (merge name phrases anchor diagnostics).diagnostics.count kind = diagnostics.count kind) →
      List.Forall₂ (fun signature field => field.StandsFor phrases signature)
        (Unify.slotSignatures (phrases.flatMap (·.fields)))
        (merge name phrases anchor diagnostics).phrase.fields) := by
  rw [Unify.merge_of_general name anchor diagnostics h]
  refine ⟨Unify.entries_mergeGeneral name phrases anchor diagnostics, fun hcount => ?_⟩
  obtain ⟨hbroken, hphrase⟩ :=
    Unify.phrase_mergeGeneral_of_count_eq name phrases anchor diagnostics hcount
  rw [hphrase]
  exact Unify.forall₂_standsFor_united hbroken

/-- Two alternatives of a call: one repeats its callee, and the other one has nothing but arguments,
which may be missing. -/
def Phrase.invocations : List Phrase :=
  [⟨[.ofTypes (some "callee") (.single "Expr") false, .unnamed "Args",
      .ofTypes (some "callee") (.single "Expr") true]⟩,
    ⟨[(Field.unnamed "Args").makeNullable]⟩]

/-- The repeated callee is reported, and the answer has one field for the callee and one for the
arguments. The callee may be empty because the second alternative has none, and the arguments because
they may be in the second alternative. -/
theorem Phrase.forall₂_standsFor_merge_invocations :
    invocations.all isSingleElement = false ∧
      (merge "Call" invocations ⟨4, 9, by decide⟩ ∅).diagnostics.entries.map (·.message) =
        ["two fields with the same signature `callee=Expr`"] ∧
      (merge "Call" invocations ⟨4, 9, by decide⟩ ∅).phrase.toText = "callee=Expr? Args?" ∧
      List.Forall₂ (fun signature field => field.StandsFor invocations signature)
        [⟨"callee=Expr"⟩, ⟨"Args"⟩] (merge "Call" invocations ⟨4, 9, by decide⟩ ∅).phrase.fields := by
  have hgeneral : invocations.all isSingleElement = false := by decide +kernel
  have hcount : ∀ kind ∈ Unify.collapseKinds,
      (merge "Call" invocations ⟨4, 9, by decide⟩ ∅).diagnostics.count kind =
        (∅ : Diagnostics).count kind := by decide +kernel
  have hsignatures : Unify.slotSignatures (invocations.flatMap (·.fields)) =
      [⟨"callee=Expr"⟩, ⟨"Args"⟩] := by decide +kernel
  have hfields := (forall₂_standsFor_merge "Call" invocations ⟨4, 9, by decide⟩ ∅ hgeneral).2 hcount
  rw [hsignatures] at hfields
  exact ⟨hgeneral, by decide +kernel, by decide +kernel, hfields⟩

end ScanSchema
