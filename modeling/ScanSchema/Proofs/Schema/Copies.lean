import ScanSchema.Proofs.Schema.Joining
import ScanSchema.Proofs.Schema.NameConflict

/-!
# Merging copies of one phrase

Alternatives that are all the same phrase, one that was joined, are merged to that phrase, and nothing is
reported. No copy has repeats; every signature has one slot with a copy of its field for each
alternative, and so nothing is missing that would let the field be empty; copies of a field are merged to
the field; the names stand in the same order in all copies, even if some name is given to several fields;
and the fields pass verification as they did when they were joined. The only thing that a merge may
change is a derived name: where all alternatives are one mergeable field without a given name, that field
is called after the nonterminal.
-/

namespace ScanSchema

/-- The phrase with its field called `name`, if it is one mergeable field without a given name. -/
def Phrase.called (name : String) (phrase : Phrase) : Phrase :=
  if phrase.isSingleElement && phrase.isUnnamedField then
    ⟨phrase.fields.map fun field => { field with name := name }⟩
  else phrase

namespace Field

variable (field : Field) (count : Nat)

/-- Copies of a field have its types together. -/
theorem unionTypes_replicate : field.unionTypes (List.replicate count field) = field.types := by
  refine TypeSet.ext_mem fun type => ?_
  rw [mem_unionTypes, ← List.replicate_succ]
  constructor
  · rintro ⟨other, hother, htype⟩
    rwa [List.eq_of_mem_replicate hother] at htype
  · intro htype
    exact ⟨field, List.mem_replicate.mpr ⟨Nat.succ_ne_zero count, rfl⟩, htype⟩

/-- Copies of a field are merged to the field, with a new name if it has no given one. -/
theorem merge?_replicate (name : Option String) :
    merge? name (List.replicate (count + 1) field) =
      some { field with name := if field.isNamed then field.name else name.getD field.name } := by
  have hcompatible : (List.replicate count field).all field.compatible = true := by
    simp [compatible]
  have hmergeable : (field :: List.replicate count field).all (·.isMergeable) =
      field.isMergeable := by
    rw [← List.replicate_succ, List.all_replicate, if_neg (Nat.succ_ne_zero count)]
  have hnullable : (field :: List.replicate count field).any (·.isNullable) =
      field.isNullable := by
    rw [← List.replicate_succ, List.any_replicate, if_neg (Nat.succ_ne_zero count)]
  have hmapping : (field :: List.replicate count field).findSome? (·.mapping) = field.mapping := by
    rw [← List.replicate_succ, List.findSome?_replicate, if_neg (Nat.succ_ne_zero count)]
  simp only [List.replicate_succ, merge?, hcompatible, unionTypes_replicate, hmergeable, hnullable,
    hmapping, if_true]

end Field

namespace Precedence

variable {α : Type} [DecidableEq α] {items names : List α}

/-- Items that are there already change nothing. -/
theorem foldl_pushNew_of_subset (h : names ⊆ items) : names.foldl pushNew items = items := by
  induction names with
  | nil => rfl
  | cons name rest ih =>
    obtain ⟨hname, hrest⟩ := List.cons_subset.mp h
    have hsame : pushNew items name = items := if_pos hname
    rw [List.foldl_cons, hsame]
    exact ih hrest

/-- New items that are all different come behind the others. -/
theorem foldl_pushNew_of_nodup (h : (items ++ names).Nodup) :
    names.foldl pushNew items = items ++ names := by
  induction names generalizing items with
  | nil => rw [List.foldl_nil, List.append_nil]
  | cons name rest ih =>
    have hnew : name ∉ items := fun hmem =>
      (List.nodup_append.mp h).2.2 name hmem name List.mem_cons_self rfl
    have hpush : pushNew items name = items ++ [name] := if_neg hnew
    rw [← List.singleton_append, ← List.append_assoc] at h
    rw [List.foldl_cons, hpush, ih h, List.append_assoc, List.singleton_append]

/-- A group agrees with the order in which its items occur first. -/
theorem agrees_foldl_pushNew (group : List α) : Agrees (group.foldl pushNew []) group := by
  have hnodup : (group.foldl pushNew []).Nodup := nodup_foldl_pushNew List.nodup_nil
  have hpairs : (group.foldl pushNew []).Pairwise fun x y =>
      (group.foldl pushNew []).idxOf x < (group.foldl pushNew []).idxOf y := by
    refine List.pairwise_iff_forall_sublist.mpr fun {x y} hpair => ?_
    have hy : y ∈ group.foldl pushNew [] := hpair.subset (by simp)
    exact (pair_sublist_iff hnodup hy).mp hpair
  exact pairwise_foldl_pushNew_iff.mp hpairs

end Precedence

namespace Unify

variable {phrase : Phrase} {field : Field} (count : Nat)

section Parts

/-- A field of a phrase is found by its signature, if no other one has it. -/
theorem find?_signature (hnodup : (phrase.fields.map Field.signature).Nodup)
    (hfield : field ∈ phrase.fields) :
    (phrase.fields.find? fun other => other.signature = field.signature) = some field := by
  have hsome : (phrase.fields.find? fun other => other.signature = field.signature).isSome :=
    List.find?_isSome.mpr ⟨field, hfield, decide_eq_true rfl⟩
  obtain ⟨found, hfound⟩ := Option.isSome_iff_exists.mp hsome
  have hsignature : found.signature = field.signature := by simpa using List.find?_some hfound
  have hsame : found = field :=
    List.inj_on_of_nodup_map hnodup (List.mem_of_find?_eq_some hfound) hfield hsignature
  rw [hfound, hsame]

/-- Copies of a phrase have copies of each of its fields. -/
theorem occurrences_replicate (hnodup : (phrase.fields.map Field.signature).Nodup)
    (hfield : field ∈ phrase.fields) :
    occurrences (List.replicate count phrase) field.signature = List.replicate count field :=
  List.filterMap_replicate_of_some (find?_signature hnodup hfield)

/-- Copies of a phrase have the signatures of its fields. -/
theorem slotSignatures_replicate (hnodup : (phrase.fields.map Field.signature).Nodup) :
    slotSignatures ((List.replicate (count + 1) phrase).flatMap (·.fields)) =
      phrase.fields.map Field.signature := by
  -- The first copy brings all signatures in their order, and the others bring none.
  have hfirst : (phrase.fields.map Field.signature).foldl Precedence.pushNew [] =
      phrase.fields.map Field.signature := Precedence.foldl_pushNew_of_nodup hnodup
  have hothers : ((List.replicate count phrase).flatMap (·.fields)).map Field.signature ⊆
      phrase.fields.map Field.signature := by
    refine List.map_subset _ fun field hfield => ?_
    obtain ⟨copy, hcopy, hmem⟩ := List.mem_flatMap.mp hfield
    rwa [List.eq_of_mem_replicate hcopy] at hmem
  rw [slotSignatures, eraseDups_eq_foldl_pushNew, List.replicate_succ, List.flatMap_cons,
    List.map_append, List.foldl_append, hfirst, Precedence.foldl_pushNew_of_subset hothers]

/-- The slots of copies of a phrase are the copies of its fields. -/
theorem slots_replicate (hnodup : (phrase.fields.map Field.signature).Nodup) :
    slots (List.replicate (count + 1) phrase) =
      phrase.fields.map (List.replicate (count + 1)) := by
  rw [slots_eq, slotSignatures_replicate count hnodup, List.map_map]
  exact List.map_congr_left fun field hfield => occurrences_replicate (count + 1) hnodup hfield

/-- As many copies of a field as there are alternatives are united to the field. -/
theorem composite?_replicate (field : Field) :
    composite? (count + 1) (List.replicate (count + 1) field) = some field := by
  have hunified : unifyBucket? (List.replicate (count + 1) field) = some field := by
    cases count with
    | zero => rfl
    | succ count =>
      have hmerged := field.merge?_replicate (count + 1) none
      rw [Option.getD_none, ite_self] at hmerged
      exact hmerged
  have hcomplete : ¬(List.replicate (count + 1) field).length < count + 1 := by
    rw [List.length_replicate]
    exact Nat.lt_irrefl _
  rw [composite?, hunified, Option.map_some, if_neg hcomplete]

/-- Copies of a phrase are united to its fields, and no slot is broken. -/
theorem united_replicate (hnodup : (phrase.fields.map Field.signature).Nodup) :
    united (List.replicate (count + 1) phrase) = phrase.fields ∧
      broken (List.replicate (count + 1) phrase) = [] := by
  rw [united, broken, slots_replicate count hnodup, List.length_replicate]
  constructor
  · rw [List.filterMap_map]
    exact (List.filterMap_congr fun field _ => composite?_replicate count field).trans
      List.filterMap_some
  · refine List.filter_eq_nil_iff.mpr fun slot hslot => ?_
    obtain ⟨field, -, rfl⟩ := List.mem_map.mp hslot
    rw [composite?_replicate]
    exact Bool.false_ne_true

/-- The names of copies of a phrase are ordered as they occur first in the phrase. -/
theorem ordersNames_replicate (hnodup : (phrase.fields.map Field.signature).Nodup) :
    OrdersNames (List.replicate (count + 1) phrase)
      ((givenNames phrase.fields).foldl Precedence.pushNew []) where
  nodup := Precedence.nodup_foldl_pushNew List.nodup_nil
  mem_iff name := by
    rw [Precedence.mem_foldl_pushNew, or_iff_right List.not_mem_nil, givenNames, List.mem_filterMap]
    constructor
    · exact fun hname => ⟨phrase, List.mem_replicate.mpr ⟨Nat.succ_ne_zero count, rfl⟩, hname⟩
    · rintro ⟨copy, hcopy, hname⟩
      rwa [List.eq_of_mem_replicate hcopy] at hname
  agrees copy hcopy := by
    rw [List.eq_of_mem_replicate hcopy, (firstFields_of_nodup hnodup).1]
    exact Precedence.agrees_foldl_pushNew _

/-- Before slots are united, nothing is found in copies of a phrase. -/
theorem earlyFindings_replicate (anchor : Span)
    (hnodup : (phrase.fields.map Field.signature).Nodup) :
    earlyFindings anchor (List.replicate (count + 1) phrase) = [] := by
  have hrepeats : repeats (List.replicate (count + 1) phrase) = [] :=
    repeats_eq_nil_of_nodup fun copy hcopy => by rwa [List.eq_of_mem_replicate hcopy]
  have horder : orderFindings anchor (List.replicate (count + 1) phrase) = [] := by
    refine List.eq_nil_of_length_eq_zero (Nat.eq_zero_of_not_pos fun hconflict => ?_)
    exact (length_orderFindings anchor _).2.mp hconflict ⟨_, ordersNames_replicate count hnodup⟩
  rw [earlyFindings_eq, hrepeats, horder]
  rfl

/-- If the fields do not collide, nothing is found when slots are united either. -/
theorem lateFindings_replicate (anchor : Span)
    (hnodup : (phrase.fields.map Field.signature).Nodup)
    (hnone : collision? phrase.fields = none) :
    lateFindings anchor (List.replicate (count + 1) phrase) = [] := by
  obtain ⟨hunited, hbroken⟩ := united_replicate count hnodup
  rw [lateFindings_eq_nil_iff, hunited]
  exact ⟨hbroken, hnone⟩

end Parts

section Copies

variable (name : String) (anchor : Span) (diagnostics : Diagnostics)

/-- A phrase of one mergeable field with the field called `name`. -/
theorem called_of_single {field : Field} (h : (Phrase.mk [field]).isSingleElement = true) :
    (Phrase.mk [field]).called name =
      ⟨[{ field with name := if field.isNamed then field.name else name }]⟩ := by
  rw [Phrase.called, h]
  obtain ⟨_, isNamed⟩ := field
  cases isNamed with
  | true => rfl
  | false => rfl

/-- Copies of one mergeable field are merged to that field. -/
theorem merge_replicate_of_single (h : phrase.isSingleElement = true) :
    let merged := merge name (List.replicate (count + 1) phrase) anchor diagnostics
    merged.diagnostics = diagnostics ∧ merged.phrase = phrase.called name := by
  intro merged
  have hall : (List.replicate (count + 1) phrase).all Phrase.isSingleElement = true :=
    List.all_eq_true.mpr fun copy hcopy => by rwa [List.eq_of_mem_replicate hcopy]
  have hmerged : merged = _ := merge_of_single name anchor diagnostics (by simp) hall
  obtain ⟨fields⟩ := phrase
  obtain ⟨field, rfl⟩ := exists_fields_eq_of_isSingleElement h
  have hfields : (List.replicate (count + 1) (Phrase.mk [field])).flatMap (·.fields) =
      List.replicate (count + 1) field := by
    rw [List.flatMap_replicate, List.flatten_replicate_singleton]
  rw [hfields, mergeSingle, Field.merge?_replicate] at hmerged
  rw [hmerged, called_of_single name h]
  exact ⟨rfl, rfl⟩

/-- Copies of a phrase of any other form are merged slot by slot. -/
theorem merge_replicate_of_general (h : phrase.isSingleElement = false)
    (hnodup : (phrase.fields.map Field.signature).Nodup)
    (hnone : collision? phrase.fields = none) :
    let merged := merge name (List.replicate (count + 1) phrase) anchor diagnostics
    merged.diagnostics = diagnostics ∧ merged.phrase = phrase.called name := by
  intro merged
  have hall : (List.replicate (count + 1) phrase).all Phrase.isSingleElement = false := by
    rw [List.replicate_succ, List.all_cons, h, Bool.false_and]
  have hmerged : merged = _ := merge_of_general name anchor diagnostics hall
  have hlate := lateFindings_replicate count anchor hnodup hnone
  have hcalled : phrase.called name = phrase := by
    rw [Phrase.called, h, Bool.false_and]
    rfl
  rw [hmerged, hcalled]
  constructor
  · rw [diagnostics_mergeGeneral_eq_late, hlate, earlyFindings_replicate count anchor hnodup]
    exact congrArg Diagnostics.mk (List.append_nil _)
  · rw [phrase_mergeGeneral_eq_late, if_pos hlate, (united_replicate count hnodup).1]

end Copies

end Unify

/-- Merging copies of a phrase that was joined reports nothing and answers with the phrase. Only where
that is one mergeable field without a given name, the field is called as the merge is. -/
theorem Phrase.merge_replicate_concat (phrases : List Phrase) (anchor : Span)
    (diagnostics : Diagnostics) (name : String) (whole : Span) (others : Diagnostics) {count : Nat}
    (h : 1 ≤ count) :
    let phrase := (concat phrases anchor diagnostics).1
    let merged := merge name (List.replicate count phrase) whole others
    merged.diagnostics = others ∧ merged.phrase = phrase.called name := by
  intro phrase
  obtain ⟨count, rfl⟩ := Nat.exists_eq_add_of_le' h
  have hjoined : phrase = Unify.joined (phrases.flatMap (·.fields)) :=
    congrArg Prod.fst (Unify.concat_eq phrases anchor diagnostics)
  have hnodup : (phrase.fields.map Field.signature).Nodup := hjoined ▸ Unify.nodup_joined _
  have hnone : Unify.collision? phrase.fields = none := hjoined ▸ Unify.collision?_joined _
  cases hsingle : phrase.isSingleElement with
  | true => exact Unify.merge_replicate_of_single count name whole others hsingle
  | false => exact Unify.merge_replicate_of_general count name whole others hsingle hnodup hnone

/-- The symbols of a call: two arguments of one name and different types with a list between them that
may be empty, and the first argument again. -/
def Phrase.arguments : List Phrase :=
  [⟨[.ofTypes (some "arg") (.single "Expr") false]⟩,
    ⟨[(Field.unnamed "Tail").makeList.makeNullable]⟩,
    ⟨[.ofTypes (some "arg") (.single "Block") false]⟩,
    ⟨[.ofTypes (some "arg") (.single "Expr") true]⟩]

/-- Three copies of the joined symbols are merged to what they are copies of. -/
theorem Phrase.merge_replicate_concat_arguments :
    let phrase := (concat arguments ⟨4, 9, by decide⟩ ∅).1
    let merged := merge "Call" (List.replicate 3 phrase) ⟨0, 12, by decide⟩ ∅
    1 ≤ 3 ∧ phrase.toText = "arg=Expr Tail[]? arg=Block" ∧
      merged.diagnostics = ∅ ∧ merged.phrase = phrase.called "Call" := by
  intro phrase merged
  have h : 1 ≤ 3 := by decide
  exact ⟨h, by decide +kernel,
    merge_replicate_concat arguments ⟨4, 9, by decide⟩ ∅ "Call" ⟨0, 12, by decide⟩ ∅ h⟩

end ScanSchema
