import ScanSchema.Proofs.Schema.Findings
import ScanSchema.Proofs.Schema.Occurrences

/-!
# How a merge fails

Whatever a merge reports stands at the anchor and comes in one order: repeats, a conflict in the order
of names, the slots whose occurrences disagree, and a collision. Every slot that cannot be united is
reported once, so that all of them can be mended together, and a collision is only looked for when
there is none. The answer is empty for one of two reasons. Either there was nothing to unify, or one of
the last two was reported. So nothing is dropped without a report, and after such a report nothing is
left.
-/

namespace ScanSchema

namespace Field

/-- Two of some fields cannot be occurrences of one slot: only one of them has a given name, or they
have different ones, or only one is a list. -/
def Disagree (fields : List Field) : Prop :=
  ∃ field ∈ fields, ∃ other ∈ fields,
    field.givenName? ≠ other.givenName? ∨ field.isList ≠ other.isList

instance (fields : List Field) : Decidable (Disagree fields) :=
  inferInstanceAs (Decidable (∃ field ∈ fields, ∃ other ∈ fields,
    field.givenName? ≠ other.givenName? ∨ field.isList ≠ other.isList))

/-- Fields either fit together or disagree. -/
theorem not_allCompatible_iff {fields : List Field} : ¬ AllCompatible fields ↔ Disagree fields := by
  simp only [AllCompatible, Disagree, compatible_eq_true_iff, not_forall, exists_prop, not_and_or,
    ne_eq]

/-- Some fields cannot be merged exactly if two of them disagree. -/
theorem merge?_eq_none_iff {name : Option String} {fields : List Field} (hne : fields ≠ []) :
    merge? name fields = none ↔ Disagree fields := by
  rw [← not_allCompatible_iff, ← Option.not_isSome_iff_eq_none, isSome_merge?_iff, and_iff_right hne]

end Field

/-- The empty phrase is the one without fields. -/
theorem Phrase.eq_empty_iff {phrase : Phrase} : phrase = .empty ↔ phrase.fields = [] := by
  cases phrase
  simp [empty]

/-- The reports of a merge, part by part. -/
structure Merged.Report (merged : Merged) (phrases : List Phrase) (anchor : Span)
    (diagnostics : Diagnostics) where
  /-- The reports of repeated fields. -/
  repeated : List Diagnostic
  /-- The report of a conflict in the order of names. -/
  conflicts : List Diagnostic
  /-- The reports of slots whose occurrences disagree. -/
  misfits : List Diagnostic
  /-- The report of a collision. -/
  collisions : List Diagnostic
  /-- The parts come one after another, behind what was there before. -/
  entries_eq : merged.diagnostics.entries =
    diagnostics.entries ++ (repeated ++ conflicts ++ misfits ++ collisions)
  /-- All reports stand at the anchor. -/
  span_eq : ∀ finding ∈ repeated ++ conflicts ++ misfits ++ collisions, finding.span = anchor
  /-- The first part holds nothing but repeats. -/
  kind_repeated : ∀ finding ∈ repeated, finding.kind = .duplicateSignature
  /-- The second part holds nothing but conflicts. -/
  kind_conflicts : ∀ finding ∈ conflicts, finding.kind = .inconsistentFieldOrder
  /-- The third part holds nothing but slots. -/
  kind_misfits : ∀ finding ∈ misfits, finding.kind = .incompatibleFields
  /-- The last part holds nothing but collisions. -/
  kind_collisions : ∀ finding ∈ collisions,
    finding.kind = .namedUnnamedCollision ∨ finding.kind = .unnamedTypeCollision
  /-- In general there is one report for every signature whose occurrences disagree. -/
  misfits_of_general : phrases.all Phrase.isSingleElement = false →
    misfits = ((Unify.slotSignatures (phrases.flatMap (·.fields))).filter fun signature =>
      Field.Disagree (Unify.occurrences phrases signature)).map fun signature =>
        Unify.incompatible anchor (Unify.occurrences phrases signature)
  /-- If all alternatives are one mergeable field, there is one report if these disagree. -/
  misfits_of_single : phrases.all Phrase.isSingleElement = true →
    misfits = if Field.Disagree (phrases.flatMap (·.fields)) then
      [Unify.incompatible anchor (phrases.flatMap (·.fields))] else []
  /-- At most one collision is reported. -/
  length_collisions_le : collisions.length ≤ 1
  /-- No collision is reported together with a slot. -/
  collisions_eq_nil : misfits ≠ [] → collisions = []
  /-- The answer is empty exactly if there was nothing to unify, or a slot or a collision is
  reported. -/
  phrase_eq_empty_iff : merged.phrase = .empty ↔
    (∀ phrase ∈ phrases, phrase = .empty) ∨ misfits ++ collisions ≠ []

namespace Unify

variable {phrases : List Phrase} {signature : Signature} {anchor : Span}

section Slots

/-- There are slots as soon as there are fields. -/
theorem slotSignatures_eq_nil_iff {fields : List Field} : slotSignatures fields = [] ↔ fields = [] := by
  cases fields with
  | nil => simp [slotSignatures]
  | cons field rest => simp [slotSignatures, List.eraseDups_cons]

/-- A signature of some alternative has an occurrence. -/
theorem occurrences_ne_nil (h : signature ∈ slotSignatures (phrases.flatMap (·.fields))) :
    occurrences phrases signature ≠ [] := by
  obtain ⟨field, hfield, hsignature⟩ := mem_slotSignatures.mp h
  obtain ⟨phrase, hphrase, hmem⟩ := List.mem_flatMap.mp hfield
  have hfound : (phrase.fields.find? fun field => field.signature = signature).isSome :=
    List.find?_isSome.mpr ⟨field, hmem, decide_eq_true hsignature⟩
  obtain ⟨first, hfirst⟩ := Option.isSome_iff_exists.mp hfound
  exact List.ne_nil_of_mem (List.mem_filterMap.mpr ⟨phrase, hphrase, hfirst⟩)

/-- A slot cannot be united exactly if its occurrences disagree. -/
theorem isNone_composite?_iff {count : Nat} {fields : List Field} (hne : fields ≠ []) :
    (composite? count fields).isNone = true ↔ Field.Disagree fields := by
  rw [composite?, Option.isNone_map, ← Option.not_isSome, Bool.not_eq_true', Bool.eq_false_iff,
    ← Field.not_allCompatible_iff, ne_eq, isSome_unifyBucket?_iff, and_iff_right hne]

/-- The slots that cannot be united are the occurrences of the signatures for which these
disagree. -/
theorem broken_eq (phrases : List Phrase) :
    broken phrases = ((slotSignatures (phrases.flatMap (·.fields))).filter fun signature =>
      Field.Disagree (occurrences phrases signature)).map (occurrences phrases) := by
  rw [broken, slots_eq, List.filter_map]
  refine congrArg (List.map (occurrences phrases)) (List.filter_congr fun signature hmem => ?_)
  rw [Bool.eq_iff_iff, decide_eq_true_iff]
  exact isNone_composite?_iff (occurrences_ne_nil hmem)

/-- If every slot has its field, there is no field exactly if all alternatives are empty. -/
theorem united_eq_nil_iff (h : broken phrases = []) :
    united phrases = [] ↔ ∀ phrase ∈ phrases, phrase = .empty := by
  have hlength := (forall₂_united h).length_eq
  rw [← List.length_eq_zero_iff, ← hlength, slots_eq, List.length_map, List.length_eq_zero_iff,
    slotSignatures_eq_nil_iff, List.flatMap_eq_nil_iff]
  simp only [Phrase.eq_empty_iff]

end Slots

section Parts

/-- A type collides with one of a named field or with one of an unnamed field. -/
theorem kind_collision (found : Collision) :
    (collision anchor found).kind = .namedUnnamedCollision ∨
      (collision anchor found).kind = .unnamedTypeCollision := by
  cases found with
  | namedUnnamed type => exact .inl rfl
  | unnamedTwice type => exact .inr rfl

/-- At most one collision is found. -/
theorem length_collisionFindings_le (anchor : Span) (phrases : List Phrase) :
    (collisionFindings anchor phrases).length ≤ 1 := by
  unfold collisionFindings
  split
  · rw [List.length_map]
    exact Option.length_toList_le
  · exact Nat.zero_le 1

/-- In general the answer is empty exactly if all alternatives are or something is found when slots
are united. -/
theorem phrase_mergeGeneral_eq_empty_iff (name : String) (phrases : List Phrase) (anchor : Span)
    (diagnostics : Diagnostics) :
    (mergeGeneral name phrases anchor diagnostics).phrase = .empty ↔
      (∀ phrase ∈ phrases, phrase = .empty) ∨ lateFindings anchor phrases ≠ [] := by
  rw [phrase_mergeGeneral_eq_late]
  by_cases hlate : lateFindings anchor phrases = []
  · have hunited := united_eq_nil_iff (lateFindings_eq_nil_iff.mp hlate).1
    rw [if_pos hlate, or_iff_left (not_not_intro hlate), ← hunited]
    exact Phrase.eq_empty_iff
  · rw [if_neg hlate]
    exact iff_of_true rfl (.inr hlate)

/-- In general every part of the reports can be there. -/
def generalReport (name : String) (phrases : List Phrase) (anchor : Span) (diagnostics : Diagnostics)
    (h : phrases.all Phrase.isSingleElement = false) :
    (mergeGeneral name phrases anchor diagnostics).Report phrases anchor diagnostics where
  repeated := (repeats phrases).map (duplicate anchor)
  conflicts := orderFindings anchor phrases
  misfits := (broken phrases).map (incompatible anchor)
  collisions := collisionFindings anchor phrases
  entries_eq := by
    rw [diagnostics_mergeGeneral_eq_late, Diagnostics.entries_reportAll, earlyFindings_eq,
      lateFindings]
    simp only [List.append_assoc]
  span_eq finding hfinding := by
    rw [← earlyFindings_eq, List.append_assoc, ← lateFindings] at hfinding
    exact (List.mem_append.mp hfinding).elim span_earlyFindings span_lateFindings
  kind_repeated := by simp [duplicate, Diagnostic.withDetail, Diagnostic.ofKind]
  kind_conflicts finding hfinding := by rw [eq_of_mem_orderFindings hfinding]; rfl
  kind_misfits := by simp [incompatible, Diagnostic.withDetail, Diagnostic.ofKind]
  kind_collisions finding hfinding := by
    obtain ⟨found, rfl⟩ := exists_of_mem_collisionFindings hfinding
    exact kind_collision found
  misfits_of_general _ := by rw [broken_eq, List.map_map]; rfl
  misfits_of_single hsingle := absurd (h.symm.trans hsingle) Bool.false_ne_true
  length_collisions_le := length_collisionFindings_le anchor phrases
  collisions_eq_nil hne := if_neg fun hbroken => hne (by rw [hbroken, List.map_nil])
  phrase_eq_empty_iff := phrase_mergeGeneral_eq_empty_iff name phrases anchor diagnostics

/-- What is found wrong with alternatives of one mergeable field each. -/
def singleFindings (anchor : Span) (fields : List Field) : List Diagnostic :=
  if Field.Disagree fields then [incompatible anchor fields] else []

/-- All that can be found there is that the fields disagree. -/
theorem eq_of_mem_singleFindings {fields : List Field} {finding : Diagnostic}
    (h : finding ∈ singleFindings anchor fields) : finding = incompatible anchor fields := by
  unfold singleFindings at h
  split at h
  · exact List.mem_singleton.mp h
  · cases h

/-- Alternatives of one mergeable field each are merged into a field, or it is reported that they
disagree and nothing is left. -/
theorem mergeSingle_cases (name : String) (anchor : Span) (diagnostics : Diagnostics)
    {fields : List Field} (hne : fields ≠ []) :
    (mergeSingle name fields anchor diagnostics).diagnostics =
        diagnostics.reportAll (singleFindings anchor fields) ∧
      ((mergeSingle name fields anchor diagnostics).phrase = .empty ↔
        singleFindings anchor fields ≠ []) := by
  unfold mergeSingle singleFindings
  cases hmerge : Field.merge? (some name) fields with
  | none =>
    have hdisagree := (Field.merge?_eq_none_iff hne).mp hmerge
    rw [if_pos hdisagree]
    exact ⟨rfl, iff_of_true rfl (List.cons_ne_nil _ _)⟩
  | some field =>
    have hagree : ¬ Field.Disagree fields := fun hdisagree => by
      rw [(Field.merge?_eq_none_iff hne).mpr hdisagree] at hmerge
      cases hmerge
    rw [if_neg hagree]
    refine ⟨congrArg Diagnostics.mk (List.append_nil _).symm, iff_of_false ?_ (not_not_intro rfl)⟩
    exact fun hempty => absurd (Phrase.eq_empty_iff.mp hempty) (List.cons_ne_nil _ _)

/-- Alternatives of one mergeable field each can only disagree. -/
def singleReport (name : String) (phrases : List Phrase) (anchor : Span) (diagnostics : Diagnostics)
    (hne : phrases ≠ []) (h : phrases.all Phrase.isSingleElement = true) :
    (mergeSingle name (phrases.flatMap (·.fields)) anchor diagnostics).Report phrases anchor
      diagnostics :=
  have hfilled : ¬ ∀ phrase ∈ phrases, phrase = .empty := by
    intro hempty
    obtain ⟨phrase, hphrase⟩ := List.exists_mem_of_ne_nil _ hne
    obtain ⟨field, hfield⟩ := exists_fields_eq_of_isSingleElement (List.all_eq_true.mp h phrase hphrase)
    rw [Phrase.eq_empty_iff.mp (hempty phrase hphrase)] at hfield
    cases hfield
  have hfields : phrases.flatMap (·.fields) ≠ [] := by
    simpa only [ne_eq, List.flatMap_eq_nil_iff, Phrase.eq_empty_iff] using hfilled
  have hcases := mergeSingle_cases name anchor diagnostics hfields
  { repeated := []
    conflicts := []
    misfits := singleFindings anchor (phrases.flatMap (·.fields))
    collisions := []
    entries_eq := by rw [hcases.1, Diagnostics.entries_reportAll]; simp
    span_eq := by
      intro finding hfinding
      simp only [List.nil_append, List.append_nil] at hfinding
      rw [eq_of_mem_singleFindings hfinding]
      rfl
    kind_repeated := by simp
    kind_conflicts := by simp
    kind_misfits := fun finding hfinding => by rw [eq_of_mem_singleFindings hfinding]; rfl
    kind_collisions := by simp
    misfits_of_general := fun hgeneral => absurd (hgeneral.symm.trans h) Bool.false_ne_true
    misfits_of_single := fun _ => rfl
    length_collisions_le := Nat.zero_le 1
    collisions_eq_nil := fun _ => rfl
    phrase_eq_empty_iff := by rw [hcases.2, List.append_nil, or_iff_right hfilled] }

/-- Without alternatives there is nothing to report. -/
def emptyReport (anchor : Span) (diagnostics : Diagnostics) :
    (Merged.mk .empty diagnostics []).Report [] anchor diagnostics where
  repeated := []
  conflicts := []
  misfits := []
  collisions := []
  entries_eq := (List.append_nil _).symm
  span_eq := by simp
  kind_repeated := by simp
  kind_conflicts := by simp
  kind_misfits := by simp
  kind_collisions := by simp
  misfits_of_general hgeneral := by cases hgeneral
  misfits_of_single _ := rfl
  length_collisions_le := Nat.zero_le 1
  collisions_eq_nil _ := rfl
  phrase_eq_empty_iff := by simp

/-- Every merge has reports of this form. Conflicts are not looked for where all alternatives are one
mergeable field. -/
theorem exists_report (name : String) (phrases : List Phrase) (anchor : Span)
    (diagnostics : Diagnostics) :
    ∃ report : (merge name phrases anchor diagnostics).Report phrases anchor diagnostics,
      report.conflicts =
        if phrases.all Phrase.isSingleElement then [] else orderFindings anchor phrases := by
  by_cases hnil : phrases = []
  · rw [hnil, merge_nil]
    exact ⟨emptyReport anchor diagnostics, rfl⟩
  cases hall : phrases.all Phrase.isSingleElement with
  | true =>
    rw [merge_of_single name anchor diagnostics hnil hall]
    exact ⟨singleReport name phrases anchor diagnostics hnil hall, rfl⟩
  | false =>
    rw [merge_of_general name anchor diagnostics hall]
    exact ⟨generalReport name phrases anchor diagnostics hall, rfl⟩

end Parts

end Unify

/-- A merge reports at its anchor repeats, a conflict in the order of names, every slot whose
occurrences disagree and at most one collision, in this order. Its answer is empty exactly if all
alternatives are, or if a slot or a collision is reported. -/
theorem Merged.nonempty_report (name : String) (phrases : List Phrase) (anchor : Span)
    (diagnostics : Diagnostics) :
    Nonempty ((merge name phrases anchor diagnostics).Report phrases anchor diagnostics) := by
  obtain ⟨report, -⟩ := Unify.exists_report name phrases anchor diagnostics
  exact ⟨report⟩

end ScanSchema
