import Mathlib.Data.List.Forall2
import ScanSchema.Proofs.Schema.Slots

/-!
# How a merge ends

A merge of alternatives that are all one mergeable field ends with that field or with a report that
they do not fit together. Every other merge first finds repeats and a conflict in the order of names
and then ends in one of three ways: some slots are broken, the united fields collide, or the united
fields are the answer. Each way is stated here with the phrase and the findings that belong to it.
So whoever sees that no finding of certain kinds was added knows which way was taken.
-/

namespace ScanSchema

/-- A kind that is not counted more often than before is not among the findings that were added. -/
theorem Diagnostics.kind_ne_of_count_eq {earlier later : Diagnostics} {found : List Diagnostic}
    {kind : DiagnosticKind} (hentries : later.entries = earlier.entries ++ found)
    (hcount : later.count kind = earlier.count kind) : ∀ finding ∈ found, finding.kind ≠ kind := by
  intro finding hfinding hkind
  rw [count, count, kinds, kinds, hentries, List.map_append, List.count_append] at hcount
  have hmem : kind ∈ found.map (·.kind) := List.mem_map.mpr ⟨finding, hfinding, hkind⟩
  have hpos := List.count_pos_iff.mpr hmem
  omega

/-- If each item has a value, none is filtered out. -/
theorem forall₂_filterMap {α β : Type} {f : α → Option β} {items : List α}
    (h : ∀ item ∈ items, (f item).isSome) :
    List.Forall₂ (fun item value => f item = some value) items (items.filterMap f) := by
  induction items with
  | nil => exact List.Forall₂.nil
  | cons item rest ih =>
    obtain ⟨value, hvalue⟩ := Option.isSome_iff_exists.mp (h item List.mem_cons_self)
    rw [List.filterMap_cons_some hvalue]
    exact List.Forall₂.cons hvalue (ih fun other hother => h other (List.mem_cons_of_mem _ hother))

namespace Unify

variable {phrases : List Phrase} (name : String) (anchor : Span) (diagnostics : Diagnostics)

section Parts

/-- For each alternative its first fields and its repeated ones. -/
def parted (phrases : List Phrase) : List (List Field × List Field) :=
  phrases.map fun phrase => splitRepeats [] phrase.fields

/-- The fields of each alternative that are kept. -/
def kept (phrases : List Phrase) : List (List Field) := (parted phrases).map (·.1)

/-- The fields that are dropped, alternative by alternative. -/
def repeats (phrases : List Phrase) : List Field := (parted phrases).flatMap (·.2)

/-- The occurrences of each slot. -/
def slots (phrases : List Phrase) : List (List Field) := buckets (kept phrases).flatten

/-- The slots whose occurrences do not fit together. -/
def broken (phrases : List Phrase) : List (List Field) :=
  (slots phrases).filter fun slot => (composite? phrases.length slot).isNone

/-- One field for each slot. -/
def united (phrases : List Phrase) : List Field :=
  (slots phrases).filterMap (composite? phrases.length)

/-- What is found before slots are united. -/
def earlyFindings (anchor : Span) (phrases : List Phrase) : List Diagnostic :=
  (repeats phrases).map (duplicate anchor) ++
    if (nameOrder (kept phrases)).result.isNone then [.ofKind .inconsistentFieldOrder anchor] else []

/-- A phrase of one mergeable field has one field. -/
theorem exists_fields_eq_of_isSingleElement {phrase : Phrase} (h : phrase.isSingleElement = true) :
    ∃ field, phrase.fields = [field] := by
  unfold Phrase.isSingleElement at h
  split at h
  next field hfields => exact ⟨field, hfields⟩
  · cases h

/-- Alternatives without repeats are kept as they are. -/
theorem kept_of_repeats_eq_nil (h : repeats phrases = []) :
    kept phrases = phrases.map (·.fields) := by
  rw [kept, parted, List.map_map]
  refine List.map_congr_left fun phrase hphrase => splitRepeats_fst_of_snd_eq_nil ?_
  rw [repeats, parted, List.flatMap_map, List.flatMap_eq_nil_iff] at h
  exact h phrase hphrase

/-- No alternative keeps two fields of one signature. -/
theorem nodup_of_mem_kept {fields : List Field} (h : fields ∈ kept phrases) :
    (fields.map Field.signature).Nodup := by
  rw [kept, parted, List.map_map] at h
  obtain ⟨phrase, -, rfl⟩ := List.mem_map.mp h
  exact nodup_splitRepeats.1

/-- What is kept was there before. -/
theorem exists_mem_of_mem_kept {field : Field} (h : field ∈ (kept phrases).flatten) :
    ∃ phrase ∈ phrases, field ∈ phrase.fields := by
  rw [kept, parted, List.map_map] at h
  obtain ⟨fields, hfields, hfield⟩ := List.mem_flatten.mp h
  obtain ⟨phrase, hphrase, rfl⟩ := List.mem_map.mp hfields
  exact ⟨phrase, hphrase, sublist_splitRepeats.subset hfield⟩

/-- If no slot is broken, every slot has its field. -/
theorem isSome_composite?_of_broken_eq_nil (h : broken phrases = []) :
    ∀ slot ∈ slots phrases, (composite? phrases.length slot).isSome := by
  intro slot hslot
  have hfits := List.filter_eq_nil_iff.mp h slot hslot
  exact Option.isSome_iff_ne_none.mpr (by simpa using hfits)

/-- If no slot is broken, every slot has its field. -/
theorem forall₂_united (h : broken phrases = []) :
    List.Forall₂ (fun slot field => composite? phrases.length slot = some field)
      (slots phrases) (united phrases) :=
  forall₂_filterMap (isSome_composite?_of_broken_eq_nil h)

end Parts

section Ways

/-- The collection with what is found before slots are united. -/
def early (phrases : List Phrase) (anchor : Span) (diagnostics : Diagnostics) : Diagnostics :=
  diagnostics.reportAll (earlyFindings anchor phrases)

/-- Without alternatives the merged phrase is empty. -/
theorem merge_nil : merge name [] anchor diagnostics = ⟨.empty, diagnostics, []⟩ := by
  rw [merge, if_pos rfl]

/-- Alternatives of one mergeable field each are merged to one field. -/
theorem merge_of_single (hne : phrases ≠ []) (h : phrases.all Phrase.isSingleElement = true) :
    merge name phrases anchor diagnostics =
      mergeSingle name (phrases.flatMap (·.fields)) anchor diagnostics := by
  rw [merge, if_neg hne, if_pos h]

/-- All others are merged slot by slot. -/
theorem merge_of_general (h : phrases.all Phrase.isSingleElement = false) :
    merge name phrases anchor diagnostics = mergeGeneral name phrases anchor diagnostics := by
  have hne : phrases ≠ [] := fun hnil => by
    rw [hnil] at h
    cases h
  rw [merge, if_neg hne, if_neg (Bool.eq_false_iff.mp h)]

/-- Repeats are found first, and then a conflict in the order of names. -/
theorem early_eq (phrases : List Phrase) : early phrases anchor diagnostics =
    if (nameOrder (kept phrases)).result.isNone then
      (diagnostics.reportAll ((repeats phrases).map (duplicate anchor))).report
        (.ofKind .inconsistentFieldOrder anchor)
    else diagnostics.reportAll ((repeats phrases).map (duplicate anchor)) := by
  unfold early earlyFindings
  split
  · simp [Diagnostics.reportAll, Diagnostics.report]
  · simp [Diagnostics.reportAll]

/-- Slots are united after that. If one of them is broken, nothing is left of the phrase. -/
theorem mergeGeneral_eq (phrases : List Phrase) :
    mergeGeneral name phrases anchor diagnostics =
      if (broken phrases).isEmpty then
        let (phrase, verified) := verify ⟨united phrases⟩ anchor (early phrases anchor diagnostics)
        ⟨phrase, verified, [⟨.debug, name ++ ": " ++ phrase.toText⟩]⟩
      else
        ⟨.empty,
          (early phrases anchor diagnostics).reportAll ((broken phrases).map (incompatible anchor)),
          [⟨.debug, name ++ ": unmergeable fields, schema collapsed"⟩]⟩ := by
  rw [early_eq]
  rfl

/-- Every broken slot is reported, and the phrase is dropped. -/
theorem mergeGeneral_of_broken (h : broken phrases ≠ []) :
    (mergeGeneral name phrases anchor diagnostics).phrase = .empty ∧
      (mergeGeneral name phrases anchor diagnostics).diagnostics =
        (early phrases anchor diagnostics).reportAll
          ((broken phrases).map (incompatible anchor)) := by
  have hbroken : ¬(broken phrases).isEmpty := by simpa using h
  rw [mergeGeneral_eq, if_neg hbroken]
  exact ⟨rfl, rfl⟩

/-- Without a broken slot the fields of the slots are only verified. -/
theorem mergeGeneral_of_broken_eq_nil (h : broken phrases = []) :
    (mergeGeneral name phrases anchor diagnostics).phrase =
        (verify ⟨united phrases⟩ anchor (early phrases anchor diagnostics)).1 ∧
      (mergeGeneral name phrases anchor diagnostics).diagnostics =
        (verify ⟨united phrases⟩ anchor (early phrases anchor diagnostics)).2 := by
  rw [mergeGeneral_eq, if_pos (by simp [h])]
  exact ⟨rfl, rfl⟩

/-- A phrase without a collision passes. -/
theorem fst_verify_of_none {phrase : Phrase} (h : collision? phrase.fields = none) :
    (verify phrase anchor diagnostics).1 = phrase := by
  simp only [verify, h]

/-- A phrase with a collision is dropped. -/
theorem fst_verify_of_some {phrase : Phrase} {found : Collision}
    (h : collision? phrase.fields = some found) :
    (verify phrase anchor diagnostics).1 = .empty := by
  simp only [verify, h]

/-- Which phrase verification lets pass does not depend on the collection. -/
theorem fst_verify_congr (phrase : Phrase) (others : Diagnostics) :
    (verify phrase anchor diagnostics).1 = (verify phrase anchor others).1 := by
  unfold verify
  cases collision? phrase.fields <;> rfl

/-- In general the answer is the united fields, unless a slot is broken or types collide. -/
theorem phrase_mergeGeneral_eq (phrases : List Phrase) :
    (mergeGeneral name phrases anchor diagnostics).phrase =
      if broken phrases = [] ∧ collision? (united phrases) = none then ⟨united phrases⟩
      else .empty := by
  by_cases hbroken : broken phrases = []
  · rw [(mergeGeneral_of_broken_eq_nil name anchor diagnostics hbroken).1]
    cases hcollision : collision? (united phrases) with
    | none =>
      rw [if_pos ⟨hbroken, rfl⟩]
      exact fst_verify_of_none anchor _ hcollision
    | some found =>
      rw [if_neg (by simp)]
      exact fst_verify_of_some anchor _ hcollision
  · rw [(mergeGeneral_of_broken name anchor diagnostics hbroken).1, if_neg fun h => hbroken h.1]

/-- Verification reports the collision, if there is one, and nothing else. -/
theorem snd_verify (phrase : Phrase) : (verify phrase anchor diagnostics).2 =
    diagnostics.reportAll ((collision? phrase.fields).toList.map (collision anchor)) := by
  unfold verify
  cases collision? phrase.fields with
  | none => simp [Diagnostics.reportAll]
  | some found => rfl

/-- The kinds of findings that leave out fields or a whole phrase. -/
def failureKinds : List DiagnosticKind :=
  [.duplicateSignature, .incompatibleFields, .namedUnnamedCollision, .unnamedTypeCollision]

/-- A repeat leaves out a field. -/
theorem kind_duplicate_mem (field : Field) : (duplicate anchor field).kind ∈ failureKinds := by
  simp [duplicate, failureKinds, Diagnostic.withDetail, Diagnostic.ofKind]

/-- A broken slot leaves out the phrase. -/
theorem kind_incompatible_mem (fields : List Field) :
    (incompatible anchor fields).kind ∈ failureKinds := by
  simp [incompatible, failureKinds, Diagnostic.withDetail, Diagnostic.ofKind]

/-- A collision leaves out the phrase. -/
theorem kind_collision_mem (found : Collision) : (collision anchor found).kind ∈ failureKinds := by
  cases found <;> simp [collision, failureKinds, Diagnostic.withDetail, Diagnostic.ofKind]

/-- Whether none of these kinds is counted more often than before. -/
def NoFailure (earlier later : Diagnostics) : Prop :=
  ∀ kind ∈ failureKinds, later.count kind = earlier.count kind

variable {anchor diagnostics}

/-- If nothing is left out, no such finding was added. -/
theorem NoFailure.not_mem {found : List Diagnostic} (h : NoFailure diagnostics
    (diagnostics.reportAll found)) : ∀ finding ∈ found, finding.kind ∉ failureKinds :=
  fun finding hfinding hkind => Diagnostics.kind_ne_of_count_eq rfl (h _ hkind) finding hfinding rfl

/-- If no failure is found in the end, none was found before slots were united. -/
theorem repeats_eq_nil_of_noFailure {found : List Diagnostic}
    (h : NoFailure diagnostics ((early phrases anchor diagnostics).reportAll found)) :
    repeats phrases = [] ∧ ∀ finding ∈ found, finding.kind ∉ failureKinds := by
  have hall : (early phrases anchor diagnostics).reportAll found =
      diagnostics.reportAll (earlyFindings anchor phrases ++ found) := by
    simp [early, Diagnostics.reportAll]
  rw [hall] at h
  constructor
  · by_contra hne
    obtain ⟨field, hfield⟩ := List.exists_mem_of_ne_nil _ hne
    refine h.not_mem (duplicate anchor field) ?_ (kind_duplicate_mem anchor field)
    exact List.mem_append_left _ (List.mem_append_left _ (List.mem_map_of_mem hfield))
  · exact fun finding hfinding => h.not_mem finding (List.mem_append_right _ hfinding)

/-- A merge without failures dropped no field and answers with the united ones. -/
theorem mergeGeneral_of_noFailure
    (h : NoFailure diagnostics (mergeGeneral name phrases anchor diagnostics).diagnostics) :
    repeats phrases = [] ∧ broken phrases = [] ∧
      (mergeGeneral name phrases anchor diagnostics).phrase = ⟨united phrases⟩ := by
  by_cases hbroken : broken phrases = []
  · obtain ⟨hphrase, hfindings⟩ := mergeGeneral_of_broken_eq_nil name anchor diagnostics hbroken
    rw [hfindings, snd_verify] at h
    obtain ⟨hrepeats, hkinds⟩ := repeats_eq_nil_of_noFailure h
    cases hcollision : collision? (united phrases) with
    | none => exact ⟨hrepeats, hbroken, hphrase.trans (fst_verify_of_none anchor _ hcollision)⟩
    | some found =>
      rw [hcollision] at hkinds
      exact absurd (kind_collision_mem anchor found) (hkinds _ List.mem_cons_self)
  · obtain ⟨slot, hslot⟩ := List.exists_mem_of_ne_nil _ hbroken
    rw [(mergeGeneral_of_broken name anchor diagnostics hbroken).2] at h
    have hkinds := (repeats_eq_nil_of_noFailure h).2
    exact absurd (kind_incompatible_mem anchor slot) (hkinds _ (List.mem_map_of_mem hslot))

end Ways

end Unify

end ScanSchema
