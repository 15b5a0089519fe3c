import Mathlib.Data.List.Nodup
import ScanSchema.Proofs.Schema.Collision
import ScanSchema.Proofs.Schema.Signature

/-!
# When merged phrases are well formed

The fields of a well-formed phrase have different signatures, and every type belongs to one of them.
A merge takes the fields apart by signature, but uniting the occurrences of a slot may change the
signature, if occurrences with different types were written alike. Two slots can end up with the same
signature in this way, and then verification does not tell them apart either. This is the only thing
that can go wrong: an answer with several fields is well formed exactly if no two slots are united to
fields of one signature. Where no two fields of the alternatives are blurred, as with plain types,
every answer is well formed.
-/

namespace ScanSchema

/-- Every signature and every type of the phrase belongs to one field. -/
structure Phrase.WellFormed (phrase : Phrase) : Prop where
  /-- No two fields have one signature. -/
  nodup_signatures : (phrase.fields.map Field.signature).Nodup
  /-- No type stands in a named and in an unnamed field. -/
  named_apart : Unify.NamedApart phrase.fields
  /-- No type stands in two unnamed fields. -/
  unnamed_apart : phrase.fields.Pairwise fun field other =>
    field.isNamed = false → other.isNamed = false →
      ∀ type ∈ field.types.names, type ∉ other.types.names

namespace Unify

variable {phrases : List Phrase} {fields : List Field} {field : Field} {count : Nat}

section Verified

/-- A phrase that passed verification is well formed if its signatures differ. -/
theorem wellFormed_iff_of_collision?_eq_none (h : collision? fields = none) :
    (Phrase.mk fields).WellFormed ↔ (fields.map Field.signature).Nodup := by
  obtain ⟨happart, halike⟩ := collision?_eq_none_iff.mp h
  refine ⟨Phrase.WellFormed.nodup_signatures, fun hnodup => ⟨hnodup, happart, ?_⟩⟩
  have hdistinct : fields.Pairwise fun field other => field.signature ≠ other.signature :=
    List.pairwise_map.mp hnodup
  refine hdistinct.imp_of_mem fun hfield hother hne hunnamed hunnamed' type htype htype' => ?_
  exact hne (halike _ hfield _ hother hunnamed hunnamed' type htype htype')

/-- A phrase of at most one field is well formed. -/
theorem wellFormed_of_length_le_one {phrase : Phrase} (h : phrase.fields.length ≤ 1) :
    phrase.WellFormed := by
  obtain ⟨fields⟩ := phrase
  match fields with
  | [] => exact ⟨List.nodup_nil, by simp [NamedApart], List.Pairwise.nil⟩
  | [field] =>
    refine ⟨List.nodup_singleton _, ?_, List.pairwise_singleton _ _⟩
    intro named hnamed unnamed hunnamed htrue hfalse
    rw [List.mem_singleton.mp hnamed] at htrue
    rw [List.mem_singleton.mp hunnamed, htrue] at hfalse
    cases hfalse
  | _ :: _ :: _ => simp at h

end Verified

section Blending

/-- The occurrences of two slots are united to fields with one signature, although the slots have
different ones. -/
def Blends (phrases : List Phrase) : Prop :=
  ∃ slot ∈ slots phrases, ∃ slot' ∈ slots phrases, slot ≠ slot' ∧
    ∃ field field', composite? phrases.length slot = some field ∧
      composite? phrases.length slot' = some field' ∧ field.signature = field'.signature

/-- Slots do not repeat. -/
theorem nodup_slots (phrases : List Phrase) : (slots phrases).Nodup := by
  refine (List.nodup_map_iff_inj_on (nodup_slotSignatures _)).mpr ?_
  intro signature hsignature signature' _ heq
  obtain ⟨field, hfield, rfl⟩ := mem_slotSignatures.mp hsignature
  have hmem : field ∈ slotOf (kept phrases).flatten field.signature := mem_slotOf.mpr ⟨hfield, rfl⟩
  have hslot : slotOf (kept phrases).flatten field.signature =
      slotOf (kept phrases).flatten signature' := heq
  rw [hslot] at hmem
  exact (mem_slotOf.mp hmem).2

/-- The signature of the field that unites a slot, if the occurrences fit together. -/
def unitedSignature? (count : Nat) (slot : List Field) : Option Signature :=
  (composite? count slot).map Field.signature

/-- If no slot is broken, the united fields have the signatures that the slots come to. -/
theorem map_unitedSignature? (h : broken phrases = []) :
    (slots phrases).map (unitedSignature? phrases.length) =
      ((united phrases).map Field.signature).map some := by
  have hslots := forall₂_united h
  generalize slots phrases = items, united phrases = fields at hslots
  induction hslots with
  | nil => rfl
  | cons hfield _ ih =>
    rw [List.map_cons, List.map_cons, List.map_cons, ← ih, unitedSignature?, hfield]
    rfl

/-- If every slot has its field, two of these have one signature exactly if slots blend. -/
theorem nodup_united_iff (h : broken phrases = []) :
    ((united phrases).map Field.signature).Nodup ↔ ¬ Blends phrases := by
  have hsome := isSome_composite?_of_broken_eq_nil h
  have hinj : Function.Injective (some : Signature → Option Signature) := fun _ _ => Option.some.inj
  rw [← List.nodup_map_iff hinj, ← map_unitedSignature? h,
    List.nodup_map_iff_inj_on (nodup_slots phrases)]
  constructor
  · rintro hinjective ⟨slot, hslot, slot', hslot', hne, field, field', hfield, hfield', heq⟩
    refine hne (hinjective slot hslot slot' hslot' ?_)
    rw [unitedSignature?, unitedSignature?, hfield, hfield', Option.map_some, Option.map_some, heq]
  · intro hnot slot hslot slot' hslot' heq
    obtain ⟨field, hfield⟩ := Option.isSome_iff_exists.mp (hsome slot hslot)
    obtain ⟨field', hfield'⟩ := Option.isSome_iff_exists.mp (hsome slot' hslot')
    rw [unitedSignature?, unitedSignature?, hfield, hfield', Option.map_some, Option.map_some,
      Option.some_inj] at heq
    by_contra hne
    exact hnot ⟨slot, hslot, slot', hslot', hne, field, field', hfield, hfield', heq⟩

/-- If no fields are blurred, a slot is united to a field with the signature of its occurrences. -/
theorem signature_of_unites {occurrence : Field} {occurrences : List Field}
    (h : field.Unites count occurrences) (hmem : occurrence ∈ occurrences)
    (hsame : ∀ other ∈ occurrences, occurrence.SameSlot other) :
    field.signature = occurrence.signature := by
  have htypes : field.types = occurrence.types := by
    refine TypeSet.ext_mem fun type => (h.mem_types_iff type).trans ⟨?_, fun htype => ?_⟩
    · rintro ⟨other, hother, htype⟩
      exact ((hsame other hother).mem_types_iff type).mpr htype
    · exact ⟨occurrence, hmem, htype⟩
  rw [Field.signature, Field.signature, htypes, h.givenName?_eq occurrence hmem]

/-- Slots blend only if two fields of the alternatives are blurred. -/
theorem not_blends_of_not_blurred
    (h : ∀ field ∈ (kept phrases).flatten, ∀ other ∈ (kept phrases).flatten,
      ¬ field.Blurred other) : ¬ Blends phrases := by
  rintro ⟨slot, hslot, slot', hslot', hne, field, field', hfield, hfield', heq⟩
  have hsignature : ∀ (s : Signature) (united : Field), s ∈ slotSignatures (kept phrases).flatten →
      composite? phrases.length (slotOf (kept phrases).flatten s) = some united →
      united.signature = s := by
    intro s united hs hunited
    obtain ⟨occurrence, hoccurrence, rfl⟩ := mem_slotSignatures.mp hs
    refine signature_of_unites (unites_of_composite? hunited)
      (mem_slotOf.mpr ⟨hoccurrence, rfl⟩) fun other hother => ?_
    obtain ⟨hother, halike⟩ := mem_slotOf.mp hother
    exact (Field.signature_eq_iff.mp halike.symm).resolve_right (h _ hoccurrence _ hother)
  obtain ⟨s, hs, rfl⟩ := List.mem_map.mp hslot
  obtain ⟨s', hs', rfl⟩ := List.mem_map.mp hslot'
  have hs_eq := hsignature s field hs hfield
  have hs_eq' := hsignature s' field' hs' hfield'
  exact hne (by rw [← hs_eq, ← hs_eq', heq])

end Blending

/-- An answer of the general way is empty, or it is made of the united fields, which do not
collide. -/
theorem phrase_mergeGeneral (name : String) (phrases : List Phrase) (anchor : Span)
    (diagnostics : Diagnostics) :
    (mergeGeneral name phrases anchor diagnostics).phrase = .empty ∨
      broken phrases = [] ∧ collision? (united phrases) = none ∧
        (mergeGeneral name phrases anchor diagnostics).phrase = ⟨united phrases⟩ := by
  rw [phrase_mergeGeneral_eq]
  split
  next hpasses => exact Or.inr ⟨hpasses.1, hpasses.2, rfl⟩
  · exact Or.inl rfl

/-- Alternatives of one mergeable field each are merged to at most one field. -/
theorem length_mergeSingle_le_one (name : String) (fields : List Field) (anchor : Span)
    (diagnostics : Diagnostics) :
    (mergeSingle name fields anchor diagnostics).phrase.fields.length ≤ 1 := by
  unfold mergeSingle
  cases Field.merge? (some name) fields with
  | none => exact Nat.zero_le 1
  | some field => exact Nat.le_refl 1

/-- An answer of at least two fields comes from the general way and is not empty. -/
theorem phrase_merge (name : String) (phrases : List Phrase) (anchor : Span)
    (diagnostics : Diagnostics) :
    (merge name phrases anchor diagnostics).phrase.fields.length ≤ 1 ∨
      broken phrases = [] ∧ collision? (united phrases) = none ∧
        (merge name phrases anchor diagnostics).phrase = ⟨united phrases⟩ := by
  unfold merge
  split
  · exact Or.inl (Nat.zero_le 1)
  split
  · exact Or.inl (length_mergeSingle_le_one _ _ _ _)
  · rcases phrase_mergeGeneral name phrases anchor diagnostics with hempty | hunited
    · rw [hempty]
      exact Or.inl (Nat.zero_le 1)
    · exact Or.inr hunited

end Unify

/-- What a merge answers is well formed, exactly unless it has several fields and two slots of the
alternatives blend. -/
theorem Phrase.wellFormed_merge_iff (name : String) (phrases : List Phrase) (anchor : Span)
    (diagnostics : Diagnostics) :
    (merge name phrases anchor diagnostics).phrase.WellFormed ↔
      ¬(2 ≤ (merge name phrases anchor diagnostics).phrase.fields.length ∧
        Unify.Blends phrases) := by
  rcases Unify.phrase_merge name phrases anchor diagnostics with
    hlength | ⟨hbroken, hcollision, hphrase⟩
  · refine iff_of_true (Unify.wellFormed_of_length_le_one hlength) fun ⟨hmany, _⟩ => ?_
    omega
  · rw [hphrase, Unify.wellFormed_iff_of_collision?_eq_none hcollision,
      Unify.nodup_united_iff hbroken, not_iff_not]
    refine ⟨fun hblends => ⟨?_, hblends⟩, And.right⟩
    -- A single united field has no other one to share its signature with.
    by_contra hfew
    have hwell : (Phrase.mk (Unify.united phrases)).WellFormed :=
      Unify.wellFormed_of_length_le_one (Nat.le_of_lt_succ (Nat.not_le.mp hfew))
    exact (Unify.nodup_united_iff hbroken).mp hwell.nodup_signatures hblends

/-- Alternatives with plain types have well-formed answers, whatever the names are. -/
theorem Phrase.wellFormed_merge_of_plain (name : String) (phrases : List Phrase) (anchor : Span)
    (diagnostics : Diagnostics)
    (h : ∀ phrase ∈ phrases, ∀ field ∈ phrase.fields, field.Plain) :
    (merge name phrases anchor diagnostics).phrase.WellFormed := by
  have hplain : ∀ field ∈ (Unify.kept phrases).flatten, field.Plain := by
    intro field hfield
    obtain ⟨phrase, hphrase, hmem⟩ := Unify.exists_mem_of_mem_kept hfield
    exact h phrase hphrase field hmem
  have hnot : ¬ Unify.Blends phrases := Unify.not_blends_of_not_blurred
    fun field hfield other hother => (hplain field hfield).not_blurred (hplain other hother)
  rcases Unify.phrase_merge name phrases anchor diagnostics with
    hlength | ⟨hbroken, hcollision, hphrase⟩
  · exact Unify.wellFormed_of_length_le_one hlength
  · rw [hphrase, Unify.wellFormed_iff_of_collision?_eq_none hcollision]
    exact (Unify.nodup_united_iff hbroken).mpr hnot

/-- Two alternatives blend when types contain bars: the united occurrences of the first slot are
written like the second slot. Both fields admit `A`, and nothing is reported. -/
theorem Phrase.not_wellFormed_merge_of_bars :
    ∃ bar pair two : Field,
      Field.ofList none ["A|B"] true = .ok bar ∧ Field.ofList none ["A", "A|B|B"] true = .ok pair ∧
      Field.ofList none ["A", "B"] true = .ok two ∧
      let merged := merge "Node" [⟨[bar, pair]⟩, ⟨[two]⟩] ⟨4, 9, by decide⟩ ∅
      merged.diagnostics = ∅ ∧
        merged.phrase.fields.map (·.types.names) = [["A", "A|B", "B"], ["A", "A|B|B"]] ∧
        merged.phrase.fields.map Field.signature = [⟨"A|A|B|B"⟩, ⟨"A|A|B|B"⟩] ∧
        ¬ merged.phrase.WellFormed := by
  refine ⟨_, _, _, rfl, rfl, rfl, by decide +kernel, by decide +kernel, by decide +kernel, ?_⟩
  intro hwell
  exact absurd hwell.nodup_signatures (by decide +kernel)

end ScanSchema
