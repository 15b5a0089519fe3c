import Mathlib.Data.List.Nodup
import ScanSchema.Proofs.Schema.Merge
import ScanSchema.Proofs.Schema.Signature

/-!
# Merged phrases describe every alternative

The point of a merge is that a node built from any alternative can be stored in the merged fields. A
`Placement` says so: every field of an alternative has a place of its own among the merged fields,
with the same given name, a list if it is one, all its types, and room for its absence; what the
merged fields admit comes from the fields placed there; and a merged field that may not be empty is
filled by every alternative. A merge that reports no failure has a placement. Both ways of merging
are instances of one argument: the fields are grouped by a key, the signature in general and none
at all where every alternative is one mergeable field.
-/

namespace ScanSchema

/-- What is known of a field still holds when it is stored in the field `slot`. -/
structure Field.FitsInto (field slot : Field) : Prop where
  /-- The names of both are given, or of neither. -/
  isNamed_eq : field.isNamed = slot.isNamed
  /-- A given name stays. -/
  name_eq : field.isNamed = true → field.name = slot.name
  /-- Lists go into lists, and nothing else does. -/
  isList_eq : field.isList = slot.isList
  /-- The slot admits all types of the field. -/
  types_subset : ∀ type ∈ field.types.names, type ∈ slot.types.names
  /-- The slot may be empty if the field may be. -/
  nullable : field.isNullable = true → slot.isNullable = true
  /-- The slot is mergeable only if the field is. -/
  mergeable : slot.isMergeable = true → field.isMergeable = true

/-- Every occurrence fits into the field that unites them. -/
theorem Field.Unites.fitsInto {count : Nat} {occurrences : List Field} {field occurrence : Field}
    (h : field.Unites count occurrences) (hmem : occurrence ∈ occurrences) :
    occurrence.FitsInto field := by
  obtain ⟨hnamed, hname⟩ := Field.givenName?_eq_iff.mp (h.givenName?_eq occurrence hmem)
  exact
    { isNamed_eq := hnamed
      name_eq := hname
      isList_eq := h.isList_eq occurrence hmem
      types_subset := fun type htype => (h.mem_types_iff type).mpr ⟨occurrence, hmem, htype⟩
      nullable := fun hnull => h.isNullable_iff.mpr (Or.inl ⟨occurrence, hmem, hnull⟩)
      mergeable := fun hmergeable => h.isMergeable_iff.mp hmergeable occurrence hmem }

/-- A place among the fields of `phrase` for every field of some alternatives. -/
structure Phrase.Placement (phrase : Phrase) (alternatives : List Phrase) where
  /-- The place of field `j` of alternative `i`. -/
  place : (i : Fin alternatives.length) → Fin alternatives[i].fields.length →
    Fin phrase.fields.length
  /-- Fields of one alternative have different places. -/
  injective : ∀ i, Function.Injective (place i)
  /-- Every field fits into its place. -/
  fitsInto : ∀ (i : Fin alternatives.length) (j : Fin alternatives[i].fields.length),
    alternatives[i].fields[j].FitsInto phrase.fields[place i j]
  /-- Every type is that of a field with this place. -/
  admitted : ∀ k : Fin phrase.fields.length, ∀ type ∈ phrase.fields[k].types.names,
    ∃ (i : Fin alternatives.length) (j : Fin alternatives[i].fields.length),
      place i j = k ∧ type ∈ alternatives[i].fields[j].types.names
  /-- A place that may not be empty is filled by a field of every alternative. -/
  filled : ∀ k : Fin phrase.fields.length, phrase.fields[k].isNullable = false →
    ∀ i : Fin alternatives.length, ∃ j : Fin alternatives[i].fields.length,
      place i j = k ∧ alternatives[i].fields[j].isNullable = false

section Counting

variable {α κ : Type} [DecidableEq κ] {key : α → κ} {k : κ}

/-- Among items with different keys at most one has a given key. -/
theorem length_filter_key_le_one {items : List α} (h : (items.map key).Nodup) :
    (items.filter fun item => key item = k).length ≤ 1 := by
  have hcount := List.nodup_iff_count_le_one.mp h k
  rw [List.count_eq_countP, List.countP_map, List.countP_eq_length_filter] at hcount
  exact hcount

/-- If no group has two items of a key, there are at most as many as groups. -/
theorem length_filter_flatten_le {groups : List (List α)}
    (h : ∀ items ∈ groups, (items.map key).Nodup) :
    (groups.flatten.filter fun item => key item = k).length ≤ groups.length := by
  induction groups with
  | nil => simp
  | cons items groups ih =>
    have hfirst := length_filter_key_le_one (k := k) (h items List.mem_cons_self)
    have hrest := ih fun other hother => h other (List.mem_cons_of_mem _ hother)
    rw [List.flatten_cons, List.filter_append, List.length_append, List.length_cons]
    omega

/-- If there are as many as groups, every group has one. -/
theorem exists_key_eq_of_length_le {groups : List (List α)}
    (h : ∀ items ∈ groups, (items.map key).Nodup)
    (hlength : groups.length ≤ (groups.flatten.filter fun item => key item = k).length) :
    ∀ items ∈ groups, ∃ item ∈ items, key item = k := by
  induction groups with
  | nil => simp
  | cons items groups ih =>
    have hfirst := length_filter_key_le_one (k := k) (h items List.mem_cons_self)
    have hothers : ∀ other ∈ groups, (other.map key).Nodup := fun other hother =>
      h other (List.mem_cons_of_mem _ hother)
    have hrest := length_filter_flatten_le (k := k) hothers
    rw [List.flatten_cons, List.filter_append, List.length_append, List.length_cons] at hlength
    intro other hother
    rcases List.mem_cons.mp hother with rfl | hother
    · obtain ⟨item, hitem⟩ := List.exists_mem_of_length_pos (by omega :
        0 < (other.filter fun item => key item = k).length)
      obtain ⟨hmem, hkey⟩ := List.mem_filter.mp hitem
      exact ⟨item, hmem, by simpa using hkey⟩
    · exact ih hothers (by omega) other hother

end Counting

section Keys

variable {κ : Type} [DecidableEq κ]

/-- The fields of all alternatives that have a given key. -/
def Phrase.sharing (alternatives : List Phrase) (key : Field → κ) (k : κ) : List Field :=
  (alternatives.map (·.fields)).flatten.filter fun field => key field = k

/-- A key tells the fields of each alternative apart, and `phrase` has for every key the field that
unites all fields of this key. -/
structure Phrase.Keying (phrase : Phrase) (alternatives : List Phrase) (key : Field → κ) where
  /-- The keys, in the order of the united fields. -/
  keys : List κ
  /-- The keys are different. -/
  nodup_keys : keys.Nodup
  /-- Every field has one of the keys. -/
  mem_keys : ∀ alternative ∈ alternatives, ∀ field ∈ alternative.fields, key field ∈ keys
  /-- Fields of one alternative have different keys. -/
  nodup_alternative : ∀ alternative ∈ alternatives, (alternative.fields.map key).Nodup
  /-- Every field of the phrase unites the fields of its key. -/
  unites : List.Forall₂ (fun k field => field.Unites alternatives.length
    (sharing alternatives key k)) keys phrase.fields

namespace Phrase.Keying

variable {phrase : Phrase} {alternatives : List Phrase} {key : Field → κ}

/-- The fields that share a key are those of the alternatives that have it. -/
theorem mem_sharing {field : Field} {k : κ} :
    field ∈ sharing alternatives key k ↔
      ∃ (i : Fin alternatives.length) (j : Fin alternatives[i].fields.length),
        alternatives[i].fields[j] = field ∧ key field = k := by
  simp only [sharing, List.mem_filter, List.mem_flatten, List.mem_map, decide_eq_true_eq]
  constructor
  · rintro ⟨⟨_, ⟨alternative, halternative, rfl⟩, hfield⟩, hkey⟩
    obtain ⟨i, hi, rfl⟩ := List.getElem_of_mem halternative
    obtain ⟨j, hj, rfl⟩ := List.getElem_of_mem hfield
    exact ⟨⟨i, hi⟩, ⟨j, hj⟩, rfl, hkey⟩
  · rintro ⟨i, j, rfl, hkey⟩
    exact ⟨⟨_, ⟨_, List.getElem_mem i.isLt, rfl⟩, List.getElem_mem j.isLt⟩, hkey⟩

variable (keying : phrase.Keying alternatives key)

/-- There are as many keys as fields of the phrase. -/
theorem length_keys : keying.keys.length = phrase.fields.length := keying.unites.length_eq

/-- Every field of an alternative has one of the keys. -/
theorem key_mem (i : Fin alternatives.length) (j : Fin alternatives[i].fields.length) :
    key alternatives[i].fields[j] ∈ keying.keys :=
  keying.mem_keys _ (List.getElem_mem i.isLt) _ (List.getElem_mem j.isLt)

/-- The number of a field is that of a key. -/
theorem lt_length_keys (k : Fin phrase.fields.length) : k < keying.keys.length :=
  Nat.lt_of_lt_of_eq k.isLt keying.length_keys.symm

/-- The key of a field of the phrase. -/
def keyAt (k : Fin phrase.fields.length) : κ := keying.keys.get ⟨k, keying.lt_length_keys k⟩

/-- Each field of the phrase unites the fields of its key. -/
theorem unites_keyAt (k : Fin phrase.fields.length) :
    phrase.fields[k].Unites alternatives.length (sharing alternatives key (keying.keyAt k)) :=
  (List.forall₂_iff_get.mp keying.unites).2 k (keying.lt_length_keys k) k.isLt

/-- The place of a field is that of its key. -/
def place (i : Fin alternatives.length) (j : Fin alternatives[i].fields.length) :
    Fin phrase.fields.length :=
  ⟨keying.keys.idxOf (key alternatives[i].fields[j]),
    Nat.lt_of_lt_of_eq (List.idxOf_lt_length_iff.mpr (keying.key_mem i j)) keying.length_keys⟩

/-- A field has its place where its key stands. -/
theorem place_eq_iff {i : Fin alternatives.length} {j : Fin alternatives[i].fields.length}
    {k : Fin phrase.fields.length} :
    keying.place i j = k ↔ key alternatives[i].fields[j] = keying.keyAt k := by
  constructor
  · rintro rfl
    exact (List.getElem_idxOf _).symm
  · intro hkey
    exact Fin.ext ((congrArg keying.keys.idxOf hkey).trans (keying.nodup_keys.idxOf_getElem k _))

/-- Fields of one alternative have different places, for their keys differ. -/
theorem place_injective (i : Fin alternatives.length) : Function.Injective (keying.place i) := by
  intro j j' hplace
  have hdistinct := keying.nodup_alternative alternatives[i] (List.getElem_mem i.isLt)
  have hkey : key alternatives[i].fields[j] = key alternatives[i].fields[j'] :=
    (keying.place_eq_iff.mp hplace).trans (keying.place_eq_iff.mp rfl).symm
  have hsame : alternatives[i].fields[j] = alternatives[i].fields[j'] :=
    List.inj_on_of_nodup_map hdistinct (List.getElem_mem j.isLt) (List.getElem_mem j'.isLt) hkey
  exact Fin.ext (hdistinct.of_map.getElem_inj_iff.mp hsame)

/-- A field that may not be empty unites a field of every alternative: there are as many of them as
alternatives, and at most one in each. -/
theorem exists_place_eq_of_isNullable_eq_false {k : Fin phrase.fields.length}
    (hfull : phrase.fields[k].isNullable = false) (i : Fin alternatives.length) :
    ∃ j : Fin alternatives[i].fields.length,
      keying.place i j = k ∧ alternatives[i].fields[j].isNullable = false := by
  have hnot := mt (keying.unites_keyAt k).isNullable_iff.mpr (Bool.eq_false_iff.mp hfull)
  obtain ⟨hsome, hmissing⟩ := not_or.mp hnot
  have hgroups : ∀ fields ∈ alternatives.map (·.fields), (fields.map key).Nodup := by
    simpa using keying.nodup_alternative
  have hmany : (alternatives.map (·.fields)).length ≤
      (sharing alternatives key (keying.keyAt k)).length := by simpa using hmissing
  obtain ⟨field, hfield, hkey⟩ := exists_key_eq_of_length_le hgroups hmany alternatives[i].fields
    (List.mem_map_of_mem (List.getElem_mem i.isLt))
  obtain ⟨j, hj, rfl⟩ := List.getElem_of_mem hfield
  refine ⟨⟨j, hj⟩, keying.place_eq_iff.mpr hkey, Bool.eq_false_iff.mpr fun hnull => hsome ?_⟩
  exact ⟨_, mem_sharing.mpr ⟨i, ⟨j, hj⟩, rfl, hkey⟩, hnull⟩

/-- Fields that unite the fields of one key each are places for all of them. -/
def placement : phrase.Placement alternatives where
  place := keying.place
  injective := keying.place_injective
  fitsInto i j := (keying.unites_keyAt (keying.place i j)).fitsInto
    (mem_sharing.mpr ⟨i, j, rfl, keying.place_eq_iff.mp rfl⟩)
  admitted k type htype := by
    obtain ⟨_, hshares, hadmits⟩ := ((keying.unites_keyAt k).mem_types_iff type).mp htype
    obtain ⟨i, j, rfl, hkey⟩ := mem_sharing.mp hshares
    exact ⟨i, j, keying.place_eq_iff.mpr hkey, hadmits⟩
  filled _ hfull i := keying.exists_place_eq_of_isNullable_eq_false hfull i

end Phrase.Keying

end Keys

namespace Unify

/-- In general the signature is the key, if no field is repeated and no slot is broken. -/
def signatureKeying {phrases : List Phrase} (hrepeats : repeats phrases = [])
    (hbroken : broken phrases = []) :
    Phrase.Keying ⟨united phrases⟩ phrases Field.signature where
  keys := slotSignatures (kept phrases).flatten
  nodup_keys := nodup_slotSignatures _
  mem_keys phrase hphrase field hfield := by
    rw [kept_of_repeats_eq_nil hrepeats, mem_slotSignatures]
    exact ⟨field, List.mem_flatten.mpr ⟨_, List.mem_map_of_mem hphrase, hfield⟩, rfl⟩
  nodup_alternative phrase hphrase := by
    have hkept : phrase.fields ∈ kept phrases := by
      rw [kept_of_repeats_eq_nil hrepeats]
      exact List.mem_map_of_mem hphrase
    exact nodup_of_mem_kept hkept
  unites := by
    have hslots := forall₂_united hbroken
    rw [slots, buckets_eq_map, List.forall₂_map_left_iff] at hslots
    unfold Phrase.sharing
    rw [← kept_of_repeats_eq_nil hrepeats]
    exact hslots.imp fun signature field hcomposite => unites_of_composite? hcomposite

/-- Phrases of one field each have as many fields as there are phrases. -/
theorem length_flatMap_fields {phrases : List Phrase}
    (h : ∀ phrase ∈ phrases, phrase.isSingleElement = true) :
    (phrases.flatMap (·.fields)).length = phrases.length := by
  induction phrases with
  | nil => rfl
  | cons phrase rest ih =>
    obtain ⟨only, honly⟩ := exists_fields_eq_of_isSingleElement (h phrase List.mem_cons_self)
    rw [List.flatMap_cons, honly, List.length_append,
      ih fun other hother => h other (List.mem_cons_of_mem _ hother), List.length_cons]
    exact Nat.add_comm _ _

/-- Where every alternative is one field, all fields have one key. -/
def singleKeying {phrases : List Phrase} {name : Option String} {field : Field}
    (hsingle : ∀ phrase ∈ phrases, phrase.isSingleElement = true)
    (hmerge : Field.merge? name (phrases.flatMap (·.fields)) = some field) :
    Phrase.Keying ⟨[field]⟩ phrases fun _ => () where
  keys := [()]
  nodup_keys := List.nodup_singleton ()
  mem_keys := by simp
  nodup_alternative phrase hphrase := by
    obtain ⟨only, honly⟩ := exists_fields_eq_of_isSingleElement (hsingle phrase hphrase)
    simp [honly]
  unites := by
    have hunites := Field.unites_of_merge? hmerge
    rw [length_flatMap_fields hsingle] at hunites
    refine List.Forall₂.cons ?_ List.Forall₂.nil
    rw [Phrase.sharing, List.filter_eq_self.mpr (by simp), ← List.flatMap_def]
    exact hunites

/-- If every alternative is one mergeable field and no failure is found, the fields were merged. -/
theorem merge?_of_noFailure {name : String} {fields : List Field} {anchor : Span}
    {diagnostics : Diagnostics}
    (h : NoFailure diagnostics (mergeSingle name fields anchor diagnostics).diagnostics) :
    ∃ field, Field.merge? (some name) fields = some field ∧
      (mergeSingle name fields anchor diagnostics).phrase = ⟨[field]⟩ := by
  unfold mergeSingle at h ⊢
  cases hmerge : Field.merge? (some name) fields with
  | some field => exact ⟨field, rfl, rfl⟩
  | none =>
    rw [hmerge] at h
    have hkinds : ∀ finding ∈ [incompatible anchor fields], finding.kind ∉ failureKinds :=
      NoFailure.not_mem h
    exact absurd (kind_incompatible_mem anchor fields) (hkinds _ List.mem_cons_self)

end Unify

/-- A merge that reports no failure answers with fields that describe every alternative. -/
theorem Phrase.nonempty_placement_merge (name : String) (phrases : List Phrase) (anchor : Span)
    (diagnostics : Diagnostics)
    (h : Unify.NoFailure diagnostics (merge name phrases anchor diagnostics).diagnostics) :
    Nonempty ((merge name phrases anchor diagnostics).phrase.Placement phrases) := by
  unfold merge at h ⊢
  split
  next hnil =>
    subst hnil
    exact ⟨⟨fun i => i.elim0, fun i => i.elim0, fun i => i.elim0, fun k => k.elim0, fun k => k.elim0⟩⟩
  next hnil =>
    rw [if_neg hnil] at h
    split
    next hsingle =>
      rw [if_pos hsingle] at h
      obtain ⟨field, hmerge, hphrase⟩ := Unify.merge?_of_noFailure h
      rw [hphrase]
      exact ⟨(Unify.singleKeying (List.all_eq_true.mp hsingle) hmerge).placement⟩
    next hsingle =>
      rw [if_neg hsingle] at h
      obtain ⟨hrepeats, hbroken, hphrase⟩ := Unify.mergeGeneral_of_noFailure name h
      rw [hphrase]
      exact ⟨(Unify.signatureKeying hrepeats hbroken).placement⟩

/-- Three alternatives of an operator: with both operands, with one that may be empty, and with a
list of unnamed operands behind the first. -/
def Phrase.operators : List Phrase :=
  [⟨[.ofTypes (some "lhs") (.single "Expr") false, .ofTypes (some "rhs") (.single "Expr") false]⟩,
    ⟨[(Field.ofTypes (some "lhs") (.single "Expr") false).makeNullable]⟩,
    ⟨[.ofTypes (some "lhs") (.single "Expr") false, (Field.unnamed "Tail").makeList]⟩]

/-- These alternatives merge without failure, so the merged fields describe each of them. -/
theorem Phrase.nonempty_placement_merge_operators :
    Unify.NoFailure ∅ (merge "Binary" operators ⟨4, 9, by decide⟩ ∅).diagnostics ∧
      (merge "Binary" operators ⟨4, 9, by decide⟩ ∅).phrase.toText =
        "lhs=Expr? rhs=Expr? Tail[]?" ∧
      Nonempty ((merge "Binary" operators ⟨4, 9, by decide⟩ ∅).phrase.Placement operators) := by
  have h : Unify.NoFailure ∅ (merge "Binary" operators ⟨4, 9, by decide⟩ ∅).diagnostics := by
    unfold Unify.NoFailure
    decide +kernel
  exact ⟨h, by decide +kernel, nonempty_placement_merge _ _ _ _ h⟩

end ScanSchema
