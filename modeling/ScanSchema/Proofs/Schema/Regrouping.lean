import ScanSchema.Proofs.Schema.Joining

/-!
# Joining phrases in groups

It does not matter whether some phrases are joined first and what became of them is joined then. The
first fields among the first fields of all groups are the first fields of all phrases, so the same fields
are kept, and the same type collides. A repeat inside of a group is reported with the group and any other
one behind the groups, so that none is reported twice or forgotten. Only a group that collides makes a
difference, as nothing is left of it.
-/

namespace ScanSchema

namespace Diagnostics

/-- The kinds of reports of a type that stands in two fields. -/
def collisionKinds : List DiagnosticKind := [.namedUnnamedCollision, .unnamedTypeCollision]

/-- The collisions among some findings. -/
def collisionsAmong (findings : List Diagnostic) : List Diagnostic :=
  findings.filter fun finding => finding.kind ∈ collisionKinds

/-- The collisions that were found. -/
def collisions (diagnostics : Diagnostics) : List Diagnostic := collisionsAmong diagnostics.entries

/-- Collisions are found part by part. -/
theorem collisionsAmong_append (findings others : List Diagnostic) :
    collisionsAmong (findings ++ others) = collisionsAmong findings ++ collisionsAmong others :=
  List.filter_append _ _

/-- New collisions come behind the others. -/
theorem collisions_reportAll (diagnostics : Diagnostics) (findings : List Diagnostic) :
    (diagnostics.reportAll findings).collisions =
      diagnostics.collisions ++ collisionsAmong findings := collisionsAmong_append _ _

/-- Findings of a kind are added to those that were counted before. -/
theorem count_reportAll (diagnostics : Diagnostics) (findings : List Diagnostic)
    (kind : DiagnosticKind) :
    (diagnostics.reportAll findings).count kind =
      diagnostics.count kind + (findings.map (·.kind)).count kind := by
  rw [count, kinds_reportAll, List.count_append]
  rfl

end Diagnostics

namespace Unify

variable {rest : List Field} {field : Field} {seen : List Signature}

/-- The fields of all phrases of a group. -/
def groupFields (group : List Phrase × Span) : List Field := group.1.flatMap (·.fields)

/-- Join every group of phrases at an anchor of its own, one group after another. -/
def concatGroups (diagnostics : Diagnostics) :
    List (List Phrase × Span) → List Phrase × Diagnostics
  | [] => ([], diagnostics)
  | (phrases, anchor) :: rest =>
    let (phrase, found) := concat phrases anchor diagnostics
    let (others, all) := concatGroups found rest
    (phrase :: others, all)

/-- Each group is joined by itself, and its findings come behind those of the groups in front. -/
theorem concatGroups_eq (diagnostics : Diagnostics) (groups : List (List Phrase × Span)) :
    concatGroups diagnostics groups =
      (groups.map fun group => joined (groupFields group),
        diagnostics.reportAll
          (groups.flatMap fun group => concatFindings group.2 (groupFields group))) := by
  induction groups generalizing diagnostics with
  | nil => exact congrArg (([], ·)) (congrArg Diagnostics.mk (List.append_nil _).symm)
  | cons group rest ih =>
    obtain ⟨phrases, anchor⟩ := group
    simp only [concatGroups, concat_eq, ih, List.map_cons, List.flatMap_cons, groupFields,
      Diagnostics.reportAll_reportAll]

/-- A field whose signature came before is left out. -/
theorem splitRepeats_fst_cons_of_mem (h : field.signature ∈ seen) (rest : List Field) :
    (splitRepeats seen (field :: rest)).1 = (splitRepeats seen rest).1 := by
  rw [splitRepeats, if_pos h]

/-- A field whose signature is new stays, and the signature has come from then on. -/
theorem splitRepeats_fst_cons_of_not_mem (h : field.signature ∉ seen) (rest : List Field) :
    (splitRepeats seen (field :: rest)).1 =
      field :: (splitRepeats (field.signature :: seen) rest).1 := by
  rw [splitRepeats, if_neg h]

/-- It makes no difference whether repeats in a group are left out before, as far as their signatures
are seen anyway. -/
theorem splitRepeats_fst_append {earlier : List Signature}
    (hseen : ∀ signature ∈ earlier, signature ∈ seen) (group : List Field) :
    (splitRepeats seen ((splitRepeats earlier group).1 ++ rest)).1 =
      (splitRepeats seen (group ++ rest)).1 := by
  induction group generalizing seen earlier with
  | nil => rfl
  | cons field group ih =>
    rw [List.cons_append]
    by_cases hearlier : field.signature ∈ earlier
    · rw [splitRepeats_fst_cons_of_mem hearlier, splitRepeats_fst_cons_of_mem (hseen _ hearlier)]
      exact ih hseen
    · rw [splitRepeats_fst_cons_of_not_mem hearlier, List.cons_append]
      by_cases hold : field.signature ∈ seen
      · rw [splitRepeats_fst_cons_of_mem hold, splitRepeats_fst_cons_of_mem hold]
        exact ih (List.forall_mem_cons.mpr ⟨hold, hseen⟩)
      · rw [splitRepeats_fst_cons_of_not_mem hold, splitRepeats_fst_cons_of_not_mem hold]
        exact congrArg (field :: ·) (ih (List.cons_subset_cons _ hseen))

/-- The same holds behind other fields. -/
theorem splitRepeats_fst_append_append (front group : List Field) :
    (splitRepeats seen (front ++ ((splitRepeats [] group).1 ++ rest))).1 =
      (splitRepeats seen (front ++ (group ++ rest))).1 := by
  induction front generalizing seen with
  | nil => exact splitRepeats_fst_append (fun _ hnot => absurd hnot List.not_mem_nil) group
  | cons field front ih =>
    rw [List.cons_append, List.cons_append]
    by_cases hold : field.signature ∈ seen
    · rw [splitRepeats_fst_cons_of_mem hold, splitRepeats_fst_cons_of_mem hold]
      exact ih
    · rw [splitRepeats_fst_cons_of_not_mem hold, splitRepeats_fst_cons_of_not_mem hold]
      exact congrArg (field :: ·) ih

/-- The first fields among the first fields of all groups are the first fields of all. -/
theorem firstFields_flatMap_firstFields (groups : List (List Field)) :
    firstFields (groups.flatMap firstFields) = firstFields groups.flatten := by
  -- The groups in front are taken as they are, and the others without their repeats.
  have hfront : ∀ front : List Field,
      (splitRepeats [] (front ++ groups.flatMap firstFields)).1 =
        (splitRepeats [] (front ++ groups.flatten)).1 := by
    induction groups with
    | nil => exact fun _ => rfl
    | cons group groups ih =>
      intro front
      have hgroup : firstFields group = (splitRepeats [] group).1 :=
        (congrArg Prod.fst (splitRepeats_eq group)).symm
      rw [List.flatMap_cons, List.flatten_cons, hgroup, splitRepeats_fst_append_append,
        ← List.append_assoc, ih, List.append_assoc]
  simpa only [List.nil_append, splitRepeats_eq] using hfront []

/-- Every field is the first one of its signature or a further one. -/
theorem length_firstFields_add (fields : List Field) :
    (firstFields fields).length + (furtherFields fields).length = fields.length := by
  have hsplit := List.length_eq_length_filter_add (l := fields.zipIdx) (comesAgain fields)
  rw [List.length_zipIdx] at hsplit
  rw [firstFields, furtherFields, List.length_map, List.length_map, hsplit, Nat.add_comm]

/-- The repeats among all fields are those in the groups and those among the first fields of these. -/
theorem length_furtherFields_flatten (groups : List (List Field)) :
    (furtherFields groups.flatten).length =
      (groups.flatMap furtherFields).length +
        (furtherFields (groups.flatMap firstFields)).length := by
  have hgroups : (groups.flatMap firstFields).length + (groups.flatMap furtherFields).length =
      groups.flatten.length := by
    induction groups with
    | nil => rfl
    | cons group rest ih =>
      have hgroup := length_firstFields_add group
      simp only [List.flatMap_cons, List.flatten_cons, List.length_append]
      omega
  have hall := length_firstFields_add groups.flatten
  have hfirst := length_firstFields_add (groups.flatMap firstFields)
  rw [firstFields_flatMap_firstFields] at hfirst
  omega

/-- Of what joining finds only the repeats are counted as such. -/
theorem count_concatFindings (anchor : Span) (fields : List Field) :
    ((concatFindings anchor fields).map (·.kind)).count .duplicateSignature =
      (furtherFields fields).length := by
  have hrepeats : ((furtherFields fields).map (duplicate anchor)).map (·.kind) =
      List.replicate (furtherFields fields).length .duplicateSignature := by
    rw [List.map_map]
    exact List.map_const'
  have hcollision : (((collision? (firstFields fields)).toList.map (collision anchor)).map
      (·.kind)).count .duplicateSignature = 0 := by
    refine List.count_eq_zero.mpr fun hmem => ?_
    obtain ⟨finding, hfinding, hkind⟩ := List.mem_map.mp hmem
    obtain ⟨found, -, rfl⟩ := List.mem_map.mp hfinding
    exact ne_duplicateSignature_of_mem_collapseKinds (kind_collision_mem_collapseKinds found) hkind
  rw [concatFindings_eq, List.map_append, List.count_append, hrepeats, hcollision,
    List.count_replicate_self, Nat.add_zero]

/-- A collision is of one of the kinds of collisions. -/
theorem kind_collision_mem_collisionKinds {anchor : Span} (found : Collision) :
    (collision anchor found).kind ∈ Diagnostics.collisionKinds := by
  cases found <;>
    simp [collision, Diagnostics.collisionKinds, Diagnostic.withDetail, Diagnostic.ofKind]

/-- Of what joining finds only the collision is one. -/
theorem collisionsAmong_concatFindings (anchor : Span) (fields : List Field) :
    Diagnostics.collisionsAmong (concatFindings anchor fields) =
      (collision? (firstFields fields)).toList.map (collision anchor) := by
  have hrepeats :
      Diagnostics.collisionsAmong ((furtherFields fields).map (duplicate anchor)) = [] := by
    refine List.filter_eq_nil_iff.mpr fun finding hfinding => ?_
    obtain ⟨field, -, rfl⟩ := List.mem_map.mp hfinding
    simp [duplicate, Diagnostics.collisionKinds, Diagnostic.withDetail, Diagnostic.ofKind]
  rw [concatFindings_eq, Diagnostics.collisionsAmong_append, hrepeats, List.nil_append]
  refine List.filter_eq_self.mpr fun finding hfinding => ?_
  obtain ⟨found, -, rfl⟩ := List.mem_map.mp hfinding
  exact decide_eq_true (kind_collision_mem_collisionKinds found)

/-- If no group collides, what is left of each are its first fields. -/
theorem fst_concatGroups {diagnostics : Diagnostics} {groups : List (List Phrase × Span)}
    (h : (concatGroups diagnostics groups).2.collisions = diagnostics.collisions) :
    (concatGroups diagnostics groups).1 =
      groups.map fun group => ⟨firstFields (groupFields group)⟩ := by
  rw [concatGroups_eq] at h ⊢
  refine List.map_congr_left fun group hgroup => ?_
  have hnone : Diagnostics.collisionsAmong
      (groups.flatMap fun group => concatFindings group.2 (groupFields group)) = [] := by
    rw [Diagnostics.collisions_reportAll] at h
    exact List.append_right_eq_self.mp h
  have hgroup : Diagnostics.collisionsAmong (concatFindings group.2 (groupFields group)) = [] := by
    rw [Diagnostics.collisionsAmong, List.filter_flatMap, List.flatMap_eq_nil_iff] at hnone
    exact hnone group hgroup
  rw [collisionsAmong_concatFindings, List.map_eq_nil_iff, Option.toList_eq_nil_iff] at hgroup
  exact (joined_eq _).trans (if_pos hgroup)

/-- All repeats inside of groups are counted. -/
theorem count_concatGroups (diagnostics : Diagnostics) (groups : List (List Phrase × Span)) :
    (concatGroups diagnostics groups).2.count .duplicateSignature =
      diagnostics.count .duplicateSignature +
        ((groups.map groupFields).flatMap furtherFields).length := by
  rw [concatGroups_eq, Diagnostics.count_reportAll, Nat.add_right_inj]
  induction groups with
  | nil => rfl
  | cons group rest ih =>
    have hgroup := count_concatFindings group.2 (groupFields group)
    simp only [List.flatMap_cons, List.map_cons, List.map_append, List.count_append,
      List.length_append, ih]
    exact congrArg (· + _) hgroup

end Unify

/-- Phrases may be joined group by group first. If no group collides, joining what became of the groups
has the same answer as joining all phrases, the same collision if there is one, and together with the
groups it reports as many repeats. -/
theorem Phrase.concat_concatGroups (groups : List (List Phrase × Span)) (anchor : Span)
    (diagnostics : Diagnostics)
    (h : (Unify.concatGroups diagnostics groups).2.collisions = diagnostics.collisions) :
    let inner := Unify.concatGroups diagnostics groups
    let stepwise := concat inner.1 anchor inner.2
    let atOnce := concat (groups.flatMap (·.1)) anchor diagnostics
    stepwise.1 = atOnce.1 ∧ stepwise.2.collisions = atOnce.2.collisions ∧
      stepwise.2.count .duplicateSignature = atOnce.2.count .duplicateSignature := by
  intro inner stepwise atOnce
  have hinner : inner.1.flatMap (·.fields) =
      (groups.map Unify.groupFields).flatMap Unify.firstFields := by
    rw [Unify.fst_concatGroups h, List.flatMap_map, List.flatMap_map]
  have hall : (groups.flatMap (·.1)).flatMap (·.fields) =
      (groups.map Unify.groupFields).flatten := by
    rw [List.flatMap_assoc, List.flatMap_def]
    rfl
  have hkept : Unify.firstFields (inner.1.flatMap (·.fields)) =
      Unify.firstFields ((groups.flatMap (·.1)).flatMap (·.fields)) := by
    rw [hinner, hall, Unify.firstFields_flatMap_firstFields]
  simp only [stepwise, atOnce, Unify.concat_eq]
  refine ⟨?_, ?_, ?_⟩
  · rw [Unify.joined_eq, Unify.joined_eq, hkept]
  · rw [Diagnostics.collisions_reportAll, Diagnostics.collisions_reportAll,
      Unify.collisionsAmong_concatFindings, Unify.collisionsAmong_concatFindings, hkept, h]
  · rw [Diagnostics.count_reportAll, Diagnostics.count_reportAll, Unify.count_concatFindings,
      Unify.count_concatFindings, Unify.count_concatGroups, hinner, hall,
      Unify.length_furtherFields_flatten, Nat.add_assoc]

/-- Two groups of phrases of a call: the second one has the callee of the first again, which may be empty
there, and repeats its tail. -/
def Phrase.callGroups : List (List Phrase × Span) :=
  [([⟨[.ofTypes (some "callee") (.single "Expr") false]⟩, .single "Args"], ⟨4, 9, by decide⟩),
    ([⟨[(Field.ofTypes (some "callee") (.single "Expr") false).makeNullable]⟩, .single "Tail",
      .single "Tail"], ⟨9, 12, by decide⟩)]

/-- The tail is reported with its group and the callee behind the groups, and both at once if all phrases
are joined. -/
theorem Phrase.concat_concatGroups_call :
    let inner := Unify.concatGroups ∅ callGroups
    let stepwise := concat inner.1 ⟨4, 12, by decide⟩ inner.2
    let atOnce := concat (callGroups.flatMap (·.1)) ⟨4, 12, by decide⟩ ∅
    inner.2.collisions = (∅ : Diagnostics).collisions ∧
      inner.1.map Phrase.toText = ["callee=Expr Args", "callee=Expr? Tail"] ∧
      stepwise.1.toText = "callee=Expr Args Tail" ∧ stepwise.2.size = 2 ∧
      stepwise.1 = atOnce.1 ∧ stepwise.2.collisions = atOnce.2.collisions ∧
        stepwise.2.count .duplicateSignature = atOnce.2.count .duplicateSignature := by
  intro inner stepwise atOnce
  have h : inner.2.collisions = (∅ : Diagnostics).collisions := by decide +kernel
  exact ⟨h, by decide +kernel, by decide +kernel, by decide +kernel,
    concat_concatGroups callGroups ⟨4, 12, by decide⟩ ∅ h⟩

end ScanSchema
