import ScanSchema.Proofs.Schema.Findings
import ScanSchema.Proofs.Schema.Precedence

/-!
# Making alternatives optional

Whether a field may be empty is carried along by unification and decides nothing in it. Signatures and
given names do not tell it, and neither does it matter to whether fields fit together or collide. So it
comes to the same whether alternatives are made optional and then unified, or unified and then made
optional: the same fields are kept, every slot has the same occurrences, and the field that unites them
may be empty if they may be. The same kinds of findings are reported too, where only the wording of
fields that do not fit together may show the difference.
-/

namespace ScanSchema

namespace Field

variable {field other : Field}

/-- An optional field is of the same slot. -/
theorem signature_makeNullable : field.makeNullable.signature = field.signature := rfl

/-- An optional field has the same name. -/
theorem givenName?_makeNullable : field.makeNullable.givenName? = field.givenName? := rfl

/-- Whether fields can be united does not depend on whether they may be empty. -/
theorem compatible_makeNullable :
    field.makeNullable.compatible other.makeNullable = field.compatible other := rfl

/-- A field is only made optional once. -/
theorem makeNullable_makeNullable : field.makeNullable.makeNullable = field.makeNullable := rfl

/-- Optional fields have the same types together. -/
theorem unionTypes_map_makeNullable (first : Field) (others : List Field) :
    first.makeNullable.unionTypes (others.map makeNullable) = first.unionTypes others := by
  rw [unionTypes, List.foldr_map]
  rfl

/-- Fields that may be empty are merged to what the fields are merged to, which may be empty then. -/
theorem merge?_map_makeNullable (name : Option String) (fields : List Field) :
    merge? name (fields.map makeNullable) = (merge? name fields).map makeNullable := by
  cases fields with
  | nil => rfl
  | cons first others =>
    have hcompatible : (others.map makeNullable).all first.makeNullable.compatible =
        others.all first.compatible := by
      rw [List.all_map]
      exact List.all_congr rfl fun _ => compatible_makeNullable
    have hmergeable : ((first :: others).map makeNullable).all (·.isMergeable) =
        (first :: others).all (·.isMergeable) := by
      rw [List.all_map]
      rfl
    have hmapping : ((first :: others).map makeNullable).findSome? (·.mapping) =
        (first :: others).findSome? (·.mapping) := by
      rw [List.findSome?_map]
      rfl
    rw [List.map_cons] at hmergeable hmapping ⊢
    rw [merge?, merge?, hcompatible]
    split
    · simp only [unionTypes_map_makeNullable, hmergeable, hmapping]
      rfl
    · rfl

end Field

namespace Unify

variable {phrases : List Phrase}

section Parts

/-- The same fields repeat once they are optional, since repeats are told by signatures. -/
theorem splitRepeats_map_makeNullable (seen : List Signature) (fields : List Field) :
    splitRepeats seen (fields.map Field.makeNullable) =
      ((splitRepeats seen fields).1.map Field.makeNullable,
        (splitRepeats seen fields).2.map Field.makeNullable) := by
  induction fields generalizing seen with
  | nil => rfl
  | cons field rest ih =>
    rw [List.map_cons, splitRepeats, splitRepeats, Field.signature_makeNullable]
    split
    · rw [ih]
      rfl
    · rw [ih]
      rfl

/-- Whether types collide has nothing to do with fields that may be empty. -/
theorem collision?_map_makeNullable (fields : List Field) :
    collision? (fields.map Field.makeNullable) = collision? fields := by
  have hnamed : namedTypes (fields.map Field.makeNullable) = namedTypes fields := by
    rw [namedTypes, List.filter_map, List.flatMap_map]
    rfl
  have hunnamed : unnamedTypes (fields.map Field.makeNullable) = unnamedTypes fields := by
    rw [unnamedTypes, List.filter_map, List.flatMap_map]
    rfl
  rw [collision?, hnamed, hunnamed]
  rfl

/-- The names of alternatives stay in their order. -/
theorem nameOrder_map_makeNullable (alternatives : List (List Field)) :
    nameOrder (alternatives.map (List.map Field.makeNullable)) = nameOrder alternatives := by
  have hnames : ∀ fields : List Field,
      givenNames (fields.map Field.makeNullable) = givenNames fields := fun fields => by
    rw [givenNames, List.filterMap_map]
    exact List.filterMap_congr fun _ _ => Field.givenName?_makeNullable
  rw [nameOrder_eq, nameOrder_eq, List.flatMap_map, List.flatMap_map]
  simp only [hnames]

/-- Optional fields fall into the same buckets. -/
theorem buckets_map_makeNullable (fields : List Field) :
    buckets (fields.map Field.makeNullable) = (buckets fields).map (List.map Field.makeNullable) := by
  have hsignatures : slotSignatures (fields.map Field.makeNullable) = slotSignatures fields := by
    rw [slotSignatures, List.map_map]
    rfl
  have hslot : ∀ signature : Signature, slotOf (fields.map Field.makeNullable) signature =
      (slotOf fields signature).map Field.makeNullable := fun signature => by
    rw [slotOf, List.filter_map]
    rfl
  rw [buckets_eq_map, buckets_eq_map, hsignatures, List.map_map]
  exact List.map_congr_left fun signature _ => hslot signature

/-- Occurrences that may be empty are united to what the occurrences are united to, which may be empty
then. -/
theorem composite?_map_makeNullable (count : Nat) (fields : List Field) :
    composite? count (fields.map Field.makeNullable) =
      (composite? count fields).map Field.makeNullable := by
  have hunified : unifyBucket? (fields.map Field.makeNullable) =
      (unifyBucket? fields).map Field.makeNullable := by
    match fields with
    | [] => rfl
    | [field] => rfl
    | first :: second :: rest => exact Field.merge?_map_makeNullable none (first :: second :: rest)
  rw [composite?, composite?, hunified, List.length_map, Option.map_map, Option.map_map]
  refine congrArg (fun f => (unifyBucket? fields).map f) (funext fun field => ?_)
  -- If an occurrence is missing, the field may be empty anyway.
  by_cases hmissing : fields.length < count
  · simp only [Function.comp_apply, hmissing, if_true, Field.makeNullable_makeNullable]
  · simp only [Function.comp_apply, hmissing, if_false]

end Parts

section Alternatives

/-- A phrase of one element is still one once its fields are optional. -/
theorem isSingleElement_makeNullable (phrase : Phrase) :
    phrase.makeNullable.isSingleElement = phrase.isSingleElement := by
  obtain ⟨fields⟩ := phrase
  match fields with
  | [] => rfl
  | [field] => rfl
  | _ :: _ :: _ => rfl

/-- So are phrases that are all of one element. -/
theorem all_isSingleElement_map_makeNullable (phrases : List Phrase) :
    (phrases.map Phrase.makeNullable).all Phrase.isSingleElement =
      phrases.all Phrase.isSingleElement := by
  rw [List.all_map]
  exact List.all_congr rfl isSingleElement_makeNullable

/-- The fields of optional phrases are the fields of the phrases, each of which may be empty. -/
theorem flatMap_fields_map_makeNullable (phrases : List Phrase) :
    (phrases.map Phrase.makeNullable).flatMap (·.fields) =
      (phrases.flatMap (·.fields)).map Field.makeNullable := by
  rw [List.flatMap_map, List.map_flatMap]
  rfl

/-- What is kept of each phrase is made optional. -/
theorem kept_map_makeNullable (phrases : List Phrase) :
    kept (phrases.map Phrase.makeNullable) =
      (kept phrases).map (List.map Field.makeNullable) := by
  simp only [kept, parted, List.map_map]
  exact List.map_congr_left fun phrase _ =>
    congrArg Prod.fst (splitRepeats_map_makeNullable [] phrase.fields)

/-- What repeats within a phrase is made optional. -/
theorem repeats_map_makeNullable (phrases : List Phrase) :
    repeats (phrases.map Phrase.makeNullable) = (repeats phrases).map Field.makeNullable := by
  simp only [repeats, parted, List.map_map, List.flatMap_map, List.map_flatMap]
  exact List.flatMap_congr fun phrase _ =>
    congrArg Prod.snd (splitRepeats_map_makeNullable [] phrase.fields)

/-- The occurrences of each slot are made optional. -/
theorem slots_map_makeNullable (phrases : List Phrase) :
    slots (phrases.map Phrase.makeNullable) =
      (slots phrases).map (List.map Field.makeNullable) := by
  rw [slots, slots, kept_map_makeNullable, ← buckets_map_makeNullable, List.map_flatten]

/-- Every slot is united to a field that may be empty, if it is united to a field at all. -/
theorem united_map_makeNullable (phrases : List Phrase) :
    united (phrases.map Phrase.makeNullable) = (united phrases).map Field.makeNullable := by
  rw [united, united, slots_map_makeNullable, List.length_map, List.filterMap_map,
    List.map_filterMap]
  exact List.filterMap_congr fun slot _ => composite?_map_makeNullable phrases.length slot

/-- The same slots are broken. -/
theorem broken_map_makeNullable (phrases : List Phrase) :
    broken (phrases.map Phrase.makeNullable) =
      (broken phrases).map (List.map Field.makeNullable) := by
  rw [broken, broken, slots_map_makeNullable, List.length_map, List.filter_map]
  refine congrArg (List.map _) (List.filter_congr fun slot _ => ?_)
  rw [Function.comp_apply, composite?_map_makeNullable, Option.isNone_map]

/-- A slot disagrees before its fields are optional exactly if it does so afterwards. -/
theorem broken_map_makeNullable_eq_nil_iff :
    broken (phrases.map Phrase.makeNullable) = [] ↔ broken phrases = [] := by
  rw [broken_map_makeNullable, List.map_eq_nil_iff]

end Alternatives

section Findings

variable (anchor : Span)

/-- The same is found wrong with optional phrases when they are joined. -/
theorem concatFindings_map_makeNullable (fields : List Field) :
    concatFindings anchor (fields.map Field.makeNullable) = concatFindings anchor fields := by
  rw [concatFindings, splitRepeats_map_makeNullable, collision?_map_makeNullable, List.map_map]
  rfl

/-- What they are joined to is what the phrases are joined to, made optional. -/
theorem joined_map_makeNullable (fields : List Field) :
    joined (fields.map Field.makeNullable) = (joined fields).makeNullable := by
  rw [joined, joined, splitRepeats_map_makeNullable, collision?_map_makeNullable]
  split
  · rfl
  · rfl

/-- The same is found before slots are united. -/
theorem earlyFindings_map_makeNullable (phrases : List Phrase) :
    earlyFindings anchor (phrases.map Phrase.makeNullable) = earlyFindings anchor phrases := by
  rw [earlyFindings, kept_map_makeNullable, nameOrder_map_makeNullable, repeats_map_makeNullable,
    List.map_map]
  rfl

/-- Occurrences that disagree are reported as such. -/
theorem kind_incompatible (fields : List Field) :
    (incompatible anchor fields).kind = .incompatibleFields := rfl

/-- Findings of the same kinds come when slots are united. -/
theorem kinds_lateFindings_map_makeNullable (phrases : List Phrase) :
    (lateFindings anchor (phrases.map Phrase.makeNullable)).map (·.kind) =
      (lateFindings anchor phrases).map (·.kind) := by
  have hcollision : collisionFindings anchor (phrases.map Phrase.makeNullable) =
      collisionFindings anchor phrases := by
    simp only [collisionFindings, broken_map_makeNullable_eq_nil_iff, united_map_makeNullable,
      collision?_map_makeNullable]
  rw [lateFindings, lateFindings, hcollision, broken_map_makeNullable, List.map_append,
    List.map_append, List.map_map, List.map_map, List.map_map]
  rfl

/-- Findings of the same kinds come from merging optional alternatives. -/
theorem kinds_mergeFindings_map_makeNullable (phrases : List Phrase) :
    (mergeFindings anchor (phrases.map Phrase.makeNullable)).map (·.kind) =
      (mergeFindings anchor phrases).map (·.kind) := by
  have hmerged : (Field.merge? none ((phrases.flatMap (·.fields)).map Field.makeNullable)).isSome =
      (Field.merge? none (phrases.flatMap (·.fields))).isSome := by
    rw [Field.merge?_map_makeNullable, Option.isSome_map]
  rw [mergeFindings, mergeFindings, ← lateFindings_eq, ← lateFindings_eq,
    flatMap_fields_map_makeNullable, hmerged, all_isSingleElement_map_makeNullable]
  simp only [List.map_eq_nil_iff]
  split
  · rfl
  split
  · split
    · rfl
    · rw [List.map_singleton, List.map_singleton, kind_incompatible, kind_incompatible]
  · rw [List.map_append, List.map_append, earlyFindings_map_makeNullable,
      kinds_lateFindings_map_makeNullable]

end Findings

section Answers

variable (name : String) (anchor : Span) (diagnostics : Diagnostics)

/-- Phrases of one element merge to an optional phrase once they are optional. -/
theorem phrase_mergeSingle_map_makeNullable (fields : List Field) :
    (mergeSingle name (fields.map Field.makeNullable) anchor diagnostics).phrase =
      (mergeSingle name fields anchor diagnostics).phrase.makeNullable := by
  rw [mergeSingle, mergeSingle, Field.merge?_map_makeNullable]
  cases Field.merge? (some name) fields with
  | none => rfl
  | some field => rfl

/-- And so do phrases on the other path. -/
theorem phrase_mergeGeneral_map_makeNullable (phrases : List Phrase) :
    (mergeGeneral name (phrases.map Phrase.makeNullable) anchor diagnostics).phrase =
      (mergeGeneral name phrases anchor diagnostics).phrase.makeNullable := by
  simp only [phrase_mergeGeneral_eq, united_map_makeNullable, collision?_map_makeNullable,
    broken_map_makeNullable_eq_nil_iff]
  split
  · rfl
  · rfl

/-- Optional alternatives are merged to what the alternatives are merged to, made optional. -/
theorem phrase_merge_map_makeNullable (phrases : List Phrase) :
    (merge name (phrases.map Phrase.makeNullable) anchor diagnostics).phrase =
      (merge name phrases anchor diagnostics).phrase.makeNullable := by
  simp only [merge, List.map_eq_nil_iff, all_isSingleElement_map_makeNullable,
    flatMap_fields_map_makeNullable]
  split
  · rfl
  split
  · exact phrase_mergeSingle_map_makeNullable name anchor diagnostics _
  · exact phrase_mergeGeneral_map_makeNullable name anchor diagnostics phrases

end Answers

end Unify

/-- Making phrases optional commutes with joining and with merging them. The findings about joined
phrases are the same, and those about a merge are of the same kinds. -/
theorem Phrase.unification_map_makeNullable (phrases : List Phrase) (name : String) (anchor : Span)
    (diagnostics : Diagnostics) :
    concat (phrases.map makeNullable) anchor diagnostics =
        ((concat phrases anchor diagnostics).1.makeNullable,
          (concat phrases anchor diagnostics).2) ∧
      (merge name (phrases.map makeNullable) anchor diagnostics).phrase =
        (merge name phrases anchor diagnostics).phrase.makeNullable ∧
      (merge name (phrases.map makeNullable) anchor diagnostics).diagnostics.kinds =
        (merge name phrases anchor diagnostics).diagnostics.kinds := by
  refine ⟨?_, Unify.phrase_merge_map_makeNullable name anchor diagnostics phrases, ?_⟩
  · rw [Unify.concat_eq, Unify.concat_eq, Unify.flatMap_fields_map_makeNullable,
      Unify.joined_map_makeNullable, Unify.concatFindings_map_makeNullable]
  · rw [Unify.diagnostics_merge, Unify.diagnostics_merge, Diagnostics.kinds_reportAll,
      Diagnostics.kinds_reportAll, Unify.kinds_mergeFindings_map_makeNullable]

end ScanSchema
