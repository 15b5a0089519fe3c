import ScanSchema.Proofs.Schema.Slots

/-!
# Merging in stages

Occurrences of a slot may be merged all at once, or group by group and then the fields that came of the
groups. Every part of a field has its own rule: types are united, a field is mergeable if all are and may
be empty if one may be, the first mapping counts, and the name is that of the first occurrence unless a
derived name is replaced. Each rule gives the same for groups. Fields are only compared with the first
one; but what came of a group fits exactly where the first field of the group does, since it keeps the
given name and is a list as that is. So merging in stages fails where merging at once fails.
-/

namespace ScanSchema

namespace Field

variable (name : Option String) {first second : Field} {fields others more : List Field}

section Attributes

/-- What merging makes of a field and others that fit it. -/
def mergedWith (name : Option String) (first : Field) (others : List Field) : Field where
  name := if first.isNamed then first.name else name.getD first.name
  isNamed := first.isNamed
  types := first.unionTypes others
  isMergeable := (first :: others).all (·.isMergeable)
  isNullable := (first :: others).any (·.isNullable)
  isList := first.isList
  mapping := (first :: others).findSome? (·.mapping)

/-- Fields are merged with the first of them if it is compatible with the others. -/
theorem merge?_cons (first : Field) (others : List Field) : merge? name (first :: others) =
    if others.all first.compatible then some (first.mergedWith name others) else none := rfl

/-- The merged field has the given name of the first. -/
theorem givenName?_mergedWith : (first.mergedWith name others).givenName? = first.givenName? := by
  unfold givenName? mergedWith
  cases first.isNamed with
  | true => rfl
  | false => rfl

/-- What came of a group fits others as the first field of the group does. -/
theorem compatible_mergedWith :
    (first.mergedWith name others).compatible (second.mergedWith name more) =
      first.compatible second := by
  rw [compatible, compatible, givenName?_mergedWith, givenName?_mergedWith]
  rfl

/-- Fields that fit each other fit the same fields. -/
theorem compatible_congr (h : first.compatible second = true) :
    first.compatible = second.compatible := by
  obtain ⟨hname, hlist⟩ := compatible_eq_true_iff.mp h
  funext other
  rw [compatible, compatible, hname, hlist]

/-- Types are united in stages. -/
theorem unionTypes_mergedWith : (first.mergedWith name others).unionTypes
    [second.mergedWith name more] = first.unionTypes (others ++ second :: more) := by
  refine TypeSet.ext_mem fun type => ?_
  have hfirst : type ∈ (first.mergedWith name others).types.names ↔
      ∃ field ∈ first :: others, type ∈ field.types.names := mem_unionTypes
  have hsecond : type ∈ (second.mergedWith name more).types.names ↔
      ∃ field ∈ second :: more, type ∈ field.types.names := mem_unionTypes
  have hstages : (∃ field ∈ [first.mergedWith name others, second.mergedWith name more],
        type ∈ field.types.names) ↔
      (∃ field ∈ first :: others, type ∈ field.types.names) ∨
        ∃ field ∈ second :: more, type ∈ field.types.names := by
    rw [← hfirst, ← hsecond]
    simp
  rw [mem_unionTypes, mem_unionTypes, hstages, ← List.cons_append]
  simp only [List.mem_append, or_and_right, exists_or]

/-- The name, too, is given in stages: a derived name that is replaced once stays as it is. -/
theorem name_mergedWith_mergedWith :
    ((first.mergedWith name others).mergedWith name more).name = (first.mergedWith name others).name := by
  unfold mergedWith
  cases first.isNamed with
  | true => rfl
  | false => cases name <;> rfl

/-- Every part of a field is merged in stages. -/
theorem mergedWith_append : (first.mergedWith name others).mergedWith name
    [second.mergedWith name more] = first.mergedWith name (others ++ second :: more) := by
  have hmergeable : [first.mergedWith name others, second.mergedWith name more].all
      (·.isMergeable) = (first :: (others ++ second :: more)).all (·.isMergeable) := by
    rw [← List.cons_append, List.all_append, List.all_cons, List.all_cons, List.all_nil,
      Bool.and_true]
    rfl
  have hnullable : [first.mergedWith name others, second.mergedWith name more].any
      (·.isNullable) = (first :: (others ++ second :: more)).any (·.isNullable) := by
    rw [← List.cons_append, List.any_append, List.any_cons, List.any_cons, List.any_nil,
      Bool.or_false]
    rfl
  have hmapping : [first.mergedWith name others, second.mergedWith name more].findSome?
      (·.mapping) = (first :: (others ++ second :: more)).findSome? (·.mapping) := by
    have hstages : [first.mergedWith name others, second.mergedWith name more].findSome?
        (·.mapping) = (first.mergedWith name others).mapping.or
          (second.mergedWith name more).mapping := by
      rw [← List.singleton_append, List.findSome?_append, List.findSome?_singleton,
        List.findSome?_singleton]
    rw [hstages, ← List.cons_append, List.findSome?_append]
    rfl
  exact Field.ext (name_mergedWith_mergedWith name) rfl (unionTypes_mergedWith name) hmergeable
    hnullable rfl hmapping

end Attributes

section Stages

/-- Merging at once is merging in stages. -/
theorem merge?_append (hfields : fields ≠ []) (hothers : others ≠ []) :
    merge? name (fields ++ others) = (merge? name fields).bind fun field =>
      (merge? name others).bind fun other => merge? name [field, other] := by
  obtain ⟨first, fields, rfl⟩ := List.exists_cons_of_ne_nil hfields
  obtain ⟨second, others, rfl⟩ := List.exists_cons_of_ne_nil hothers
  have hpair : merge? name [first.mergedWith name fields, second.mergedWith name others] =
      if first.compatible second then some (first.mergedWith name (fields ++ second :: others))
      else none := by
    rw [merge?_cons, List.all_cons, List.all_nil, Bool.and_true, compatible_mergedWith,
      mergedWith_append]
  have hall : (fields ++ second :: others).all first.compatible =
      (fields.all first.compatible && (first.compatible second && others.all first.compatible)) := by
    rw [List.all_append, List.all_cons]
  -- The second group is compared with its own first field, which fits the same fields.
  have hgroup : (first.compatible second && others.all first.compatible) =
      (first.compatible second && others.all second.compatible) := by
    cases hfit : first.compatible second with
    | true => rw [compatible_congr hfit]
    | false => rfl
  rw [List.cons_append, merge?_cons, merge?_cons, merge?_cons, hall, hgroup]
  cases fields.all first.compatible with
  | false => rfl
  | true =>
    cases others.all second.compatible with
    | false =>
      rw [Bool.and_false]
      rfl
    | true =>
      rw [Bool.and_true]
      exact hpair.symm

/-- A field that was merged is merged to itself. -/
theorem merge?_singleton_of_merge? {field : Field} (h : merge? name fields = some field) :
    merge? name [field] = some field := by
  cases fields with
  | nil => cases h
  | cons first others =>
    rw [merge?_cons, Option.ite_none_right_eq_some, Option.some_inj] at h
    obtain ⟨-, rfl⟩ := h
    have hsame : (first.mergedWith name others).mergedWith name [] = first.mergedWith name others :=
      Field.ext (name_mergedWith_mergedWith name) rfl rfl (Bool.and_true _) (Bool.or_false _) rfl
        List.findSome?_singleton
    rw [merge?_cons, hsame]
    rfl

/-- A field that was merged is merged with others like any part of them. -/
theorem merge?_cons_of_merge? {field : Field} (h : merge? name fields = some field)
    (hothers : others ≠ []) : merge? name (field :: others) =
      (merge? name others).bind fun other => merge? name [field, other] := by
  have hsplit := merge?_append name (List.cons_ne_nil field []) hothers
  rw [merge?_singleton_of_merge? name h] at hsplit
  exact hsplit

/-- Any number of groups are merged in stages. -/
theorem merge?_flatten {groups : List (List Field)} (h : ∀ group ∈ groups, group ≠ []) :
    merge? name groups.flatten = (groups.mapM (merge? name)).bind (merge? name) := by
  induction groups with
  | nil => rfl
  | cons group rest ih =>
    have hgroup : group ≠ [] := h group List.mem_cons_self
    have hrest : ∀ other ∈ rest, other ≠ [] := fun other hother =>
      h other (List.mem_cons_of_mem _ hother)
    cases rest with
    | nil =>
      rw [List.flatten_singleton, List.mapM_cons]
      cases hfield : merge? name group with
      | none => rfl
      | some field => exact (merge?_singleton_of_merge? name hfield).symm
    | cons next rest =>
      have hnext : (next :: rest).flatten ≠ [] := by
        rw [List.flatten_cons]
        exact List.append_ne_nil_of_left_ne_nil (hrest next List.mem_cons_self) _
      rw [List.flatten_cons, merge?_append name hgroup hnext, ih hrest, List.mapM_cons,
        List.mapM_cons, List.mapM_cons]
      cases hfield : merge? name group with
      | none => rfl
      | some field =>
        cases merge? name next with
        | none => rfl
        | some second =>
          cases rest.mapM (merge? name) with
          | none => rfl
          | some others =>
            exact (merge?_cons_of_merge? name hfield (List.cons_ne_nil second others)).symm

/-- Merging two groups of fields at once fails if one of them cannot be merged or if the two fields that
come of them do not fit. Otherwise it gives the field that these two are merged to. -/
theorem merge?_in_stages (hfields : fields ≠ []) (hothers : others ≠ []) :
    (merge? name (fields ++ others) = none ↔
      merge? name fields = none ∨ merge? name others = none ∨
        ∃ field other, merge? name fields = some field ∧ merge? name others = some other ∧
          merge? name [field, other] = none) ∧
      ∀ merged, merge? name (fields ++ others) = some merged →
        ∃ field other, merge? name fields = some field ∧ merge? name others = some other ∧
          merge? name [field, other] = some merged := by
  have happend := merge?_append name hfields hothers
  cases hfield : merge? name fields with
  | none =>
    rw [hfield, Option.bind_none] at happend
    refine ⟨iff_of_true happend (Or.inl rfl), fun merged hmerged => ?_⟩
    cases happend.symm.trans hmerged
  | some field =>
    cases hother : merge? name others with
    | none =>
      rw [hfield, hother, Option.bind_some, Option.bind_none] at happend
      refine ⟨iff_of_true happend (Or.inr (Or.inl rfl)), fun merged hmerged => ?_⟩
      cases happend.symm.trans hmerged
    | some other =>
      rw [hfield, hother, Option.bind_some, Option.bind_some] at happend
      rw [happend]
      refine ⟨⟨fun hnone => Or.inr (Or.inr ⟨field, other, rfl, rfl, hnone⟩), ?_⟩,
        fun merged hmerged => ⟨field, other, rfl, rfl, hmerged⟩⟩
      rintro (hnone | hnone | ⟨_, _, hsome, hsome', hnone⟩)
      · cases hnone
      · cases hnone
      · cases hsome
        cases hsome'
        exact hnone

/-- Occurrences of one slot: a statement, and an expression that may be missing. -/
def statements : List Field := [unnamed "Stmt", (unnamed "Expr").makeNullable]

/-- Further occurrences of the slot: one that is stored as the body of a loop and cannot be merged on, and
one that is stored otherwise. -/
def declarations : List Field :=
  [(ofTypes none (.single "Block") false).withMapping { field := "body" },
    (unnamed "Expr").withMapping { field := "value" }]

/-- All four are merged in two stages, to an optional field of three types. -/
theorem merge?_in_stages_declarations :
    statements ≠ [] ∧ declarations ≠ [] ∧
      (merge? (some "Item") (statements ++ declarations)).map toText = some "Block|Expr|Stmt?" ∧
      ∀ merged, merge? (some "Item") (statements ++ declarations) = some merged →
        ∃ field other, merge? (some "Item") statements = some field ∧
          merge? (some "Item") declarations = some other ∧
          merge? (some "Item") [field, other] = some merged :=
  ⟨by decide, by decide, by decide +kernel,
    (merge?_in_stages (some "Item") (by decide) (by decide)).2⟩

end Stages

end Field

end ScanSchema
