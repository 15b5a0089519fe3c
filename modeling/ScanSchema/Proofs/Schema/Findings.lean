import ScanSchema.Proofs.Schema.Merge

/-!
# What is found while phrases are unified

Joining phrases and merging alternatives add what they find wrong to the end of a collection that
the caller hands in, and nothing of what they do depends on that collection. `concatFindings` and
`mergeFindings` are the findings that they add. All of them stand at the anchor that the caller
names, and which kinds there can be is a matter of the operation: repeats and collisions where
phrases are joined, and everything else where alternatives are merged. A merge finds repeats and a
conflict in the order of names before it unites slots, and these are all there is to report unless
something is found then, after which nothing is left of the fields. As no phrase that was joined
has a signature twice, merging such phrases finds no repeats.
-/

namespace ScanSchema

/-- Findings that are added in two goes are added in turn. -/
theorem Diagnostics.reportAll_reportAll (diagnostics : Diagnostics)
    (first second : List Diagnostic) :
    (diagnostics.reportAll first).reportAll second = diagnostics.reportAll (first ++ second) := by
  simp only [reportAll, List.append_assoc]

/-- The kinds of new findings come behind the others. -/
theorem Diagnostics.kinds_reportAll (diagnostics : Diagnostics) (findings : List Diagnostic) :
    (diagnostics.reportAll findings).kinds = diagnostics.kinds ++ findings.map (·.kind) :=
  List.map_append

/-- Whether fields can be merged does not depend on the name of the result. -/
theorem Field.isSome_merge?_eq (name : Option String) (fields : List Field) :
    (merge? name fields).isSome = (merge? none fields).isSome := by
  rw [Bool.eq_iff_iff, isSome_merge?_iff, isSome_merge?_iff]

namespace Unify

variable {phrases : List Phrase} {fields : List Field} {anchor : Span} {finding : Diagnostic}

section Joining

/-- What joining phrases finds wrong with their fields: one finding for each repeat, and then the
collision, if there is one. -/
def concatFindings (anchor : Span) (fields : List Field) : List Diagnostic :=
  (splitRepeats [] fields).2.map (duplicate anchor) ++
    (collision? (splitRepeats [] fields).1).toList.map (collision anchor)

/-- The phrase that joining makes of some fields. -/
def joined (fields : List Field) : Phrase :=
  if collision? (splitRepeats [] fields).1 = none then ⟨(splitRepeats [] fields).1⟩ else .empty

/-- Joining looks at the fields of all phrases, and adds its findings at the end. -/
theorem concat_eq (phrases : List Phrase) (anchor : Span) (diagnostics : Diagnostics) :
    concat phrases anchor diagnostics =
      (joined (phrases.flatMap (·.fields)),
        diagnostics.reportAll (concatFindings anchor (phrases.flatMap (·.fields)))) := by
  have hverify : concat phrases anchor diagnostics =
      verify ⟨(splitRepeats [] (phrases.flatMap (·.fields))).1⟩ anchor
        (diagnostics.reportAll
          ((splitRepeats [] (phrases.flatMap (·.fields))).2.map (duplicate anchor))) := rfl
  rw [hverify, concatFindings, ← Diagnostics.reportAll_reportAll]
  refine Prod.ext ?_ (snd_verify anchor _ _)
  unfold joined
  split
  next hnone => exact fst_verify_of_none anchor _ hnone
  next hsome =>
    obtain ⟨found, hfound⟩ := Option.ne_none_iff_exists'.mp hsome
    exact fst_verify_of_some anchor _ hfound

/-- A phrase that was joined has no signature twice. -/
theorem nodup_joined (fields : List Field) :
    ((joined fields).fields.map Field.signature).Nodup := by
  unfold joined
  split
  · exact nodup_splitRepeats.1
  · exact List.nodup_nil

/-- The kinds of findings about joined phrases. -/
def concatKinds : List DiagnosticKind :=
  [.duplicateSignature, .namedUnnamedCollision, .unnamedTypeCollision]

/-- A collision is among what joining may find. -/
theorem kind_collision_mem_concatKinds (found : Collision) :
    (collision anchor found).kind ∈ concatKinds := by
  cases found <;> simp [collision, concatKinds, Diagnostic.withDetail, Diagnostic.ofKind]

/-- A collision is reported at the anchor. -/
theorem span_collision (found : Collision) : (collision anchor found).span = anchor := by
  cases found <;> rfl

/-- Findings about joined phrases stand at the anchor and are repeats or collisions. -/
theorem of_mem_concatFindings (h : finding ∈ concatFindings anchor fields) :
    finding.span = anchor ∧ finding.kind ∈ concatKinds := by
  rcases List.mem_append.mp h with hrepeat | hcollision
  · obtain ⟨field, -, rfl⟩ := List.mem_map.mp hrepeat
    exact ⟨rfl, List.mem_cons_self⟩
  · obtain ⟨found, -, rfl⟩ := List.mem_map.mp hcollision
    exact ⟨span_collision found, kind_collision_mem_concatKinds found⟩

end Joining

section Merging

/-- What merging alternatives finds wrong with them. Alternatives of one mergeable field each can
only fail to fit together. In general repeats come first, then a conflict in the order of names, and
then all slots that cannot be united or, if there are none, the collision. -/
def mergeFindings (anchor : Span) (phrases : List Phrase) : List Diagnostic :=
  if phrases = [] then []
  else if phrases.all Phrase.isSingleElement then
    if (Field.merge? none (phrases.flatMap (·.fields))).isSome then []
    else [incompatible anchor (phrases.flatMap (·.fields))]
  else
    earlyFindings anchor phrases ++
      if broken phrases = [] then (collision? (united phrases)).toList.map (collision anchor)
      else (broken phrases).map (incompatible anchor)

/-- Alternatives of one mergeable field each are reported only if they do not fit together. -/
theorem diagnostics_mergeSingle (name : String) (fields : List Field) (anchor : Span)
    (diagnostics : Diagnostics) :
    (mergeSingle name fields anchor diagnostics).diagnostics =
      diagnostics.reportAll
        (if (Field.merge? none fields).isSome then [] else [incompatible anchor fields]) := by
  rw [← Field.isSome_merge?_eq (some name)]
  unfold mergeSingle
  cases Field.merge? (some name) fields with
  | none => rfl
  | some field => exact congrArg Diagnostics.mk (List.append_nil _).symm

/-- In general repeats and a conflict of names are reported first. Broken slots come behind them or, if
there are none, the collision. -/
theorem diagnostics_mergeGeneral (name : String) (phrases : List Phrase) (anchor : Span)
    (diagnostics : Diagnostics) :
    (mergeGeneral name phrases anchor diagnostics).diagnostics =
      diagnostics.reportAll (earlyFindings anchor phrases ++
        if broken phrases = [] then (collision? (united phrases)).toList.map (collision anchor)
        else (broken phrases).map (incompatible anchor)) := by
  rw [← Diagnostics.reportAll_reportAll]
  by_cases hbroken : broken phrases = []
  · rw [(mergeGeneral_of_broken_eq_nil name anchor diagnostics hbroken).2, snd_verify,
      if_pos hbroken]
    rfl
  · rw [(mergeGeneral_of_broken name anchor diagnostics hbroken).2, if_neg hbroken]
    rfl

/-- The finding about a conflict in the order of names, if there is one. -/
def orderFindings (anchor : Span) (phrases : List Phrase) : List Diagnostic :=
  if (nameOrder (kept phrases)).result.isNone then [.ofKind .inconsistentFieldOrder anchor] else []

/-- Repeats are found before a conflict in the order of names. -/
theorem earlyFindings_eq (anchor : Span) (phrases : List Phrase) :
    earlyFindings anchor phrases =
      (repeats phrases).map (duplicate anchor) ++ orderFindings anchor phrases := rfl

/-- The only finding about the order of names is that there is a conflict. -/
theorem eq_of_mem_orderFindings (h : finding ∈ orderFindings anchor phrases) :
    finding = .ofKind .inconsistentFieldOrder anchor := by
  unfold orderFindings at h
  split at h
  · exact List.mem_singleton.mp h
  · cases h

/-- The finding about a collision, if every slot has its field and there is one. -/
def collisionFindings (anchor : Span) (phrases : List Phrase) : List Diagnostic :=
  if broken phrases = [] then (collision? (united phrases)).toList.map (collision anchor) else []

/-- What is found wrong when slots are united: all slots that cannot be united or, if there are none,
the collision. -/
def lateFindings (anchor : Span) (phrases : List Phrase) : List Diagnostic :=
  (broken phrases).map (incompatible anchor) ++ collisionFindings anchor phrases

/-- The kinds of findings after which nothing is left of a phrase. -/
def collapseKinds : List DiagnosticKind :=
  [.incompatibleFields, .namedUnnamedCollision, .unnamedTypeCollision]

/-- Nothing is left of a phrase with a collision. -/
theorem kind_collision_mem_collapseKinds (found : Collision) :
    (collision anchor found).kind ∈ collapseKinds := by
  cases found <;> simp [collision, collapseKinds, Diagnostic.withDetail, Diagnostic.ofKind]

/-- What is found among united slots is a collision. -/
theorem exists_of_mem_collisionFindings (h : finding ∈ collisionFindings anchor phrases) :
    ∃ found, finding = collision anchor found := by
  unfold collisionFindings at h
  split at h
  · obtain ⟨found, -, rfl⟩ := List.mem_map.mp h
    exact ⟨found, rfl⟩
  · cases h

/-- After every late finding nothing is left of the phrase. -/
theorem kind_mem_collapseKinds (h : finding ∈ lateFindings anchor phrases) :
    finding.kind ∈ collapseKinds := by
  rcases List.mem_append.mp h with hbroken | hcollision
  · obtain ⟨slot, -, rfl⟩ := List.mem_map.mp hbroken
    exact List.mem_cons_self
  · obtain ⟨found, rfl⟩ := exists_of_mem_collisionFindings hcollision
    exact kind_collision_mem_collapseKinds found

/-- A repeat does not make a phrase collapse. -/
theorem ne_duplicateSignature_of_mem_collapseKinds {kind : DiagnosticKind} (h : kind ∈ collapseKinds) :
    kind ≠ .duplicateSignature := by
  rintro rfl
  exact absurd h (by decide)

/-- What is found before slots are united stands at the anchor. -/
theorem span_earlyFindings (h : finding ∈ earlyFindings anchor phrases) : finding.span = anchor := by
  rw [earlyFindings_eq] at h
  rcases List.mem_append.mp h with hrepeat | horder
  · obtain ⟨field, -, rfl⟩ := List.mem_map.mp hrepeat
    rfl
  · rw [eq_of_mem_orderFindings horder]
    rfl

/-- What is found when slots are united stands at the anchor. -/
theorem span_lateFindings (h : finding ∈ lateFindings anchor phrases) : finding.span = anchor := by
  rcases List.mem_append.mp h with hbroken | hcollision
  · obtain ⟨slot, -, rfl⟩ := List.mem_map.mp hbroken
    rfl
  · obtain ⟨found, rfl⟩ := exists_of_mem_collisionFindings hcollision
    exact span_collision found

/-- Collisions are only looked for if every slot has its field. -/
theorem lateFindings_eq (anchor : Span) (phrases : List Phrase) :
    lateFindings anchor phrases =
      if broken phrases = [] then (collision? (united phrases)).toList.map (collision anchor)
      else (broken phrases).map (incompatible anchor) := by
  rw [lateFindings, collisionFindings]
  by_cases hbroken : broken phrases = []
  · rw [if_pos hbroken, if_pos hbroken, hbroken, List.map_nil, List.nil_append]
  · rw [if_neg hbroken, if_neg hbroken, List.append_nil]

/-- Nothing is found when slots are united exactly if each has its field and these do not collide. -/
theorem lateFindings_eq_nil_iff :
    lateFindings anchor phrases = [] ↔ broken phrases = [] ∧ collision? (united phrases) = none := by
  rw [lateFindings, List.append_eq_nil_iff, List.map_eq_nil_iff]
  refine and_congr_right fun hbroken => ?_
  rw [collisionFindings, if_pos hbroken, List.map_eq_nil_iff, Option.toList_eq_nil_iff]

/-- In general the findings are those made before slots are united, and then those made about the slots. -/
theorem diagnostics_mergeGeneral_eq_late (name : String) (phrases : List Phrase) (anchor : Span)
    (diagnostics : Diagnostics) :
    (mergeGeneral name phrases anchor diagnostics).diagnostics =
      diagnostics.reportAll (earlyFindings anchor phrases ++ lateFindings anchor phrases) := by
  rw [diagnostics_mergeGeneral, lateFindings_eq]

/-- If nothing is found when slots are united the answer is the united fields, and otherwise it is
empty. -/
theorem phrase_mergeGeneral_eq_late (name : String) (phrases : List Phrase) (anchor : Span)
    (diagnostics : Diagnostics) :
    (mergeGeneral name phrases anchor diagnostics).phrase =
      if lateFindings anchor phrases = [] then ⟨united phrases⟩ else .empty := by
  simp only [phrase_mergeGeneral_eq, lateFindings_eq_nil_iff]

/-- Merging adds its findings at the end. -/
theorem diagnostics_merge (name : String) (phrases : List Phrase) (anchor : Span)
    (diagnostics : Diagnostics) :
    (merge name phrases anchor diagnostics).diagnostics =
      diagnostics.reportAll (mergeFindings anchor phrases) := by
  unfold merge mergeFindings
  split
  · exact congrArg Diagnostics.mk (List.append_nil _).symm
  split
  · exact diagnostics_mergeSingle name _ anchor diagnostics
  · exact diagnostics_mergeGeneral name phrases anchor diagnostics

/-- Where no signature comes twice, nothing is left out. -/
theorem splitRepeats_snd_eq_nil {seen : List Signature}
    (hnodup : (fields.map Field.signature).Nodup)
    (hunseen : ∀ field ∈ fields, field.signature ∉ seen) : (splitRepeats seen fields).2 = [] := by
  induction fields generalizing seen with
  | nil => rfl
  | cons field rest ih =>
    obtain ⟨hfirst, hrest⟩ := List.nodup_cons.mp hnodup
    obtain ⟨hnew, hothers⟩ := List.forall_mem_cons.mp hunseen
    unfold splitRepeats
    rw [if_neg hnew]
    refine ih hrest fun other hother hseen => ?_
    rcases List.mem_cons.mp hseen with heq | hseen
    · exact hfirst (heq ▸ List.mem_map_of_mem hother)
    · exact hothers other hother hseen

/-- Nothing is repeated among alternatives whose signatures differ within each of them. -/
theorem repeats_eq_nil_of_nodup
    (h : ∀ phrase ∈ phrases, (phrase.fields.map Field.signature).Nodup) : repeats phrases = [] := by
  rw [repeats, parted, List.flatMap_map, List.flatMap_eq_nil_iff]
  exact fun phrase hphrase =>
    splitRepeats_snd_eq_nil (h phrase hphrase) fun _ _ => List.not_mem_nil

/-- Findings about a merge stand at the anchor, and none is a repeat if no alternative has a
signature twice. -/
theorem of_mem_mergeFindings (h : ∀ phrase ∈ phrases, (phrase.fields.map Field.signature).Nodup)
    (hfinding : finding ∈ mergeFindings anchor phrases) :
    finding.span = anchor ∧ finding.kind ≠ .duplicateSignature := by
  unfold mergeFindings at hfinding
  rw [← lateFindings_eq] at hfinding
  split at hfinding
  · cases hfinding
  split at hfinding
  · split at hfinding
    · cases hfinding
    · rw [List.mem_singleton.mp hfinding]
      exact ⟨rfl, DiagnosticKind.noConfusion⟩
  · rcases List.mem_append.mp hfinding with hearly | hlate
    · refine ⟨span_earlyFindings hearly, ?_⟩
      rw [earlyFindings_eq, repeats_eq_nil_of_nodup h] at hearly
      rw [eq_of_mem_orderFindings hearly]
      exact DiagnosticKind.noConfusion
    · exact ⟨span_lateFindings hlate,
        ne_duplicateSignature_of_mem_collapseKinds (kind_mem_collapseKinds hlate)⟩

end Merging

end Unify

end ScanSchema
