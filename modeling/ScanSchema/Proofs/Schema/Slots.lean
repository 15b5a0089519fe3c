import ScanSchema.Schema.Unify

/-!
# Slots and what becomes of them

Unification first drops the repeated fields of every alternative, then sorts what is left into
slots by signature, and then makes one field of each slot. Here each of the three steps is described
on its own. A list without repeats passes the first step as it is. The slots are the fields of one
signature each, for all signatures in order of first appearance. The occurrences of a slot can be
united exactly if any two of them can. And a field that unites them has their given name, admits
exactly their types, is mergeable if all of them are, and may be empty if one of them may be or if an
alternative lacks the slot.
-/

namespace ScanSchema

/-- A list has no repeats once they are erased. -/
theorem nodup_eraseDups {α : Type} [DecidableEq α] (items : List α) : items.eraseDups.Nodup := by
  cases items with
  | nil => simp
  | cons first rest =>
    rw [List.eraseDups_cons, List.nodup_cons]
    constructor
    · rw [List.mem_eraseDups]
      simp
    · exact nodup_eraseDups _
termination_by items.length
decreasing_by exact Nat.lt_succ_of_le (List.length_filter_le _ _)

namespace Field

/-- The field is one for all `occurrences` of a slot in `count` alternatives. -/
structure Unites (count : Nat) (occurrences : List Field) (field : Field) : Prop where
  /-- The given name is that of every occurrence. -/
  givenName?_eq : ∀ occurrence ∈ occurrences, occurrence.givenName? = field.givenName?
  /-- It holds a list if every occurrence does, and otherwise none does. -/
  isList_eq : ∀ occurrence ∈ occurrences, occurrence.isList = field.isList
  /-- Its types are those of the occurrences. -/
  mem_types_iff : ∀ type, type ∈ field.types.names ↔
    ∃ occurrence ∈ occurrences, type ∈ occurrence.types.names
  /-- It is mergeable if all occurrences are. -/
  isMergeable_iff : field.isMergeable = true ↔
    ∀ occurrence ∈ occurrences, occurrence.isMergeable = true
  /-- It may be empty if an occurrence may be, or if there are fewer of them than alternatives. -/
  isNullable_iff : field.isNullable = true ↔
    (∃ occurrence ∈ occurrences, occurrence.isNullable = true) ∨ occurrences.length < count

variable {count : Nat} {field other : Field} {fields occurrences : List Field}
  {name : Option String}

/-- Two fields are compatible if they have the same given name, or none, and both are lists or neither is.
-/
theorem compatible_eq_true_iff : field.compatible other = true ↔
    field.givenName? = other.givenName? ∧ field.isList = other.isList := by
  simp [compatible]

/-- The united types are those of all fields. -/
theorem mem_unionTypes {first : Field} {others : List Field} {type : String} :
    type ∈ (first.unionTypes others).names ↔
      ∃ field ∈ first :: others, type ∈ field.types.names := by
  unfold unionTypes
  induction others with
  | nil => simp
  | cons field others ih =>
    rw [List.foldr_cons, TypeSet.mem_union, ih]
    simp only [List.mem_cons, exists_eq_or_imp]
    exact or_left_comm

/-- A field that is already there for every alternative unites itself. -/
theorem unites_self (field : Field) : field.Unites 1 [field] where
  givenName?_eq := by simp
  isList_eq := by simp
  mem_types_iff := by simp
  isMergeable_iff := by simp
  isNullable_iff := by simp

/-- Merging answers with a field that unites all it was given. -/
theorem unites_of_merge? (h : merge? name occurrences = some field) :
    field.Unites occurrences.length occurrences := by
  cases occurrences with
  | nil => cases h
  | cons first others =>
    simp only [merge?, Option.ite_none_right_eq_some, Option.some.injEq] at h
    obtain ⟨hall, rfl⟩ := h
    have hcompatible : ∀ occurrence ∈ first :: others,
        first.givenName? = occurrence.givenName? ∧ first.isList = occurrence.isList := by
      intro occurrence hmem
      rcases List.mem_cons.mp hmem with rfl | hmem
      · exact ⟨rfl, rfl⟩
      · exact compatible_eq_true_iff.mp (List.all_eq_true.mp hall occurrence hmem)
    refine
      { givenName?_eq := fun occurrence hmem => ?_
        isList_eq := fun occurrence hmem => (hcompatible occurrence hmem).2.symm
        mem_types_iff := fun type => mem_unionTypes
        isMergeable_iff := List.all_eq_true
        isNullable_iff := by simp }
    rw [← (hcompatible occurrence hmem).1]
    unfold givenName?
    cases first.isNamed <;> simp

/-- Any two of some fields can be occurrences of one slot. -/
def AllCompatible (fields : List Field) : Prop :=
  ∀ field ∈ fields, ∀ other ∈ fields, field.compatible other = true

/-- Fields can be merged if there are any and they fit together. -/
theorem isSome_merge?_iff : (merge? name fields).isSome ↔ fields ≠ [] ∧ AllCompatible fields := by
  cases fields with
  | nil => simp [merge?]
  | cons first rest =>
    have hsome : (merge? name (first :: rest)).isSome ↔ rest.all first.compatible = true := by
      simp [merge?]
    rw [hsome, List.all_eq_true, and_iff_right (List.cons_ne_nil _ _)]
    constructor
    · intro h
      have hfirst : ∀ field ∈ first :: rest,
          first.givenName? = field.givenName? ∧ first.isList = field.isList := by
        intro field hfield
        rcases List.mem_cons.mp hfield with rfl | hfield
        · exact ⟨rfl, rfl⟩
        · exact compatible_eq_true_iff.mp (h field hfield)
      intro field hfield other hother
      obtain ⟨hname, hlist⟩ := hfirst field hfield
      obtain ⟨hname', hlist'⟩ := hfirst other hother
      exact compatible_eq_true_iff.mpr ⟨hname.symm.trans hname', hlist.symm.trans hlist'⟩
    · exact fun h field hfield => h first List.mem_cons_self field (List.mem_cons_of_mem _ hfield)

end Field

namespace Unify

variable {count : Nat} {field : Field} {fields occurrences : List Field} {seen : List Signature}

section Repeats

/-- The first fields of their signatures stand in the order in which they came. -/
theorem sublist_splitRepeats : (splitRepeats seen fields).1.Sublist fields := by
  induction fields generalizing seen with
  | nil => exact List.Sublist.refl _
  | cons field rest ih =>
    unfold splitRepeats
    split
    · exact ih.cons field
    · exact ih.cons_cons field

/-- No signature is there twice, and none that came before. -/
theorem nodup_splitRepeats : ((splitRepeats seen fields).1.map Field.signature).Nodup ∧
    ∀ field ∈ (splitRepeats seen fields).1, field.signature ∉ seen := by
  induction fields generalizing seen with
  | nil => simp [splitRepeats]
  | cons field rest ih =>
    unfold splitRepeats
    split
    · exact ih
    next hnew =>
      obtain ⟨hnodup, hunseen⟩ := @ih (field.signature :: seen)
      refine ⟨List.nodup_cons.mpr ⟨?_, hnodup⟩, fun other hother => ?_⟩
      · intro hmem
        obtain ⟨other, hother, heq⟩ := List.mem_map.mp hmem
        exact hunseen other hother (heq ▸ List.mem_cons_self)
      · rcases List.mem_cons.mp hother with rfl | hother
        · exact hnew
        · exact fun hseen => hunseen other hother (List.mem_cons_of_mem _ hseen)

/-- Without repeats nothing is left out. -/
theorem splitRepeats_fst_of_snd_eq_nil (h : (splitRepeats seen fields).2 = []) :
    (splitRepeats seen fields).1 = fields := by
  induction fields generalizing seen with
  | nil => rfl
  | cons field rest ih =>
    unfold splitRepeats at h ⊢
    split at h
    · cases h
    next hnew =>
      rw [if_neg hnew]
      exact congrArg (field :: ·) (ih h)

end Repeats

section Buckets

/-- The signatures of some fields in the order of their first appearance. -/
def slotSignatures (fields : List Field) : List Signature :=
  (fields.map Field.signature).eraseDups

/-- The fields of one signature. -/
def slotOf (fields : List Field) (signature : Signature) : List Field :=
  fields.filter fun field => field.signature = signature

/-- No slot is counted twice. -/
theorem nodup_slotSignatures (fields : List Field) : (slotSignatures fields).Nodup :=
  nodup_eraseDups _

/-- The slots are those of the fields. -/
theorem mem_slotSignatures {signature : Signature} :
    signature ∈ slotSignatures fields ↔ ∃ field ∈ fields, field.signature = signature := by
  rw [slotSignatures, List.mem_eraseDups, List.mem_map]

/-- The fields of a slot are those with its signature. -/
theorem mem_slotOf {signature : Signature} :
    field ∈ slotOf fields signature ↔ field ∈ fields ∧ field.signature = signature := by
  rw [slotOf, List.mem_filter, decide_eq_true_iff]

/-- There is one slot for each signature. -/
theorem buckets_eq_map (fields : List Field) :
    buckets fields = (slotSignatures fields).map (slotOf fields) := rfl

end Buckets

section Composites

/-- Occurrences can be united if there are any and they fit together. -/
theorem isSome_unifyBucket?_iff :
    (unifyBucket? fields).isSome ↔ fields ≠ [] ∧ Field.AllCompatible fields := by
  unfold unifyBucket?
  split
  next field => simp [Field.AllCompatible, Field.compatible]
  next => exact Field.isSome_merge?_iff

/-- The field they are united to is one for all of them. -/
theorem unites_of_unifyBucket? (h : unifyBucket? occurrences = some field) :
    field.Unites occurrences.length occurrences := by
  unfold unifyBucket? at h
  split at h
  · cases h
    exact field.unites_self
  · exact Field.unites_of_merge? h

/-- What unification makes of a slot unites the occurrences. -/
theorem unites_of_composite?
    (h : composite? count occurrences = some field) : field.Unites count occurrences := by
  obtain ⟨united, hunited, rfl⟩ := Option.map_eq_some_iff.mp h
  obtain ⟨hname, hlist, htypes, hmergeable, hnullable⟩ := unites_of_unifyBucket? hunited
  by_cases hless : occurrences.length < count
  · rw [if_pos hless]
    exact ⟨hname, hlist, htypes, hmergeable, iff_of_true rfl (Or.inr hless)⟩
  · rw [if_neg hless]
    refine ⟨hname, hlist, htypes, hmergeable, ?_⟩
    rw [hnullable, or_iff_left (Nat.lt_irrefl _), or_iff_left hless]

end Composites

end Unify

end ScanSchema
