import Mathlib.Data.List.Pairwise
import ScanSchema.Proofs.Schema.Merge

/-!
# What verification rules out

Verification walks over the types of the unnamed fields and remembers for each type the signature of
its first owner. It finds nothing exactly if no type of a named field is among them, and if unnamed
fields that share a type have the same signature. So it tells two unnamed fields apart as far as
their signatures do: where all signatures differ, a phrase that passes attributes every type to one
field, and where two unnamed fields are written alike it may not.
-/

namespace ScanSchema

namespace Unify

variable {named : List String} {owners pairs : List (String × Signature)} {fields : List Field}

/-- With a new owner in front, types keep their owner exactly if they did before and this type
keeps the new one. -/
theorem forall_lookup_cons_iff {type : String} {signature : Signature}
    (hnew : owners.lookup type = none) :
    (∀ pair ∈ pairs, ∀ owner, ((type, signature) :: owners).lookup pair.1 = some owner →
        owner = pair.2) ↔
      (∀ pair ∈ pairs, type = pair.1 → signature = pair.2) ∧
        ∀ pair ∈ pairs, ∀ owner, owners.lookup pair.1 = some owner → owner = pair.2 := by
  rw [← forall₂_and]
  refine forall₂_congr fun pair hpair => ?_
  by_cases htype : type = pair.1
  · subst htype
    simp [hnew]
  · have hlookup : ((type, signature) :: owners).lookup pair.1 = owners.lookup pair.1 := by
      rw [List.lookup_cons, beq_eq_false_iff_ne.mpr (Ne.symm htype)]
    simp [hlookup, htype]

/-- Nothing is found exactly if no type is a named one and every type keeps its owner. -/
theorem firstCollision_eq_none_iff :
    firstCollision named owners pairs = none ↔
      (∀ pair ∈ pairs, pair.1 ∉ named) ∧
        (∀ pair ∈ pairs, ∀ owner, owners.lookup pair.1 = some owner → owner = pair.2) ∧
        pairs.Pairwise fun pair other => pair.1 = other.1 → pair.2 = other.2 := by
  induction pairs generalizing owners with
  | nil => simp [firstCollision]
  | cons first rest ih =>
    obtain ⟨type, signature⟩ := first
    unfold firstCollision
    split
    next hnamed => simp [hnamed]
    next hnamed =>
      simp only [List.forall_mem_cons, List.pairwise_cons]
      split
      next hnew =>
        -- The type has no owner yet: from here on this signature owns it.
        rw [ih, forall_lookup_cons_iff hnew]
        simp only [hnamed, hnew, not_false_eq_true, true_and, reduceCtorEq, false_imp_iff,
          implies_true]
        tauto
      next owner howner =>
        split
        next hsame =>
          subst hsame
          rw [ih]
          have hkeeps : (∀ pair ∈ rest, ∀ other, owners.lookup pair.1 = some other →
              other = pair.2) → ∀ pair ∈ rest, type = pair.1 → owner = pair.2 := by
            rintro h pair hpair rfl
            exact h pair hpair owner howner
          simp only [hnamed, howner, not_false_eq_true, true_and, Option.some.injEq, forall_eq']
          tauto
        next hother =>
          simp [howner, hother]

/-- The named types are those of the named fields. -/
theorem mem_namedTypes {type : String} :
    type ∈ namedTypes fields ↔
      ∃ field ∈ fields, field.isNamed = true ∧ type ∈ field.types.names := by
  simp [namedTypes, and_assoc]

/-- The unnamed types come with the signatures of their fields. -/
theorem mem_unnamedTypes {type : String} {signature : Signature} :
    (type, signature) ∈ unnamedTypes fields ↔
      ∃ field ∈ fields, field.isNamed = false ∧ type ∈ field.types.names ∧
        field.signature = signature := by
  simp [unnamedTypes, and_assoc]

/-- The owner of a type is the same for all pairs, in whatever order one looks at them. -/
theorem pairwise_owner_iff :
    (pairs.Pairwise fun pair other => pair.1 = other.1 → pair.2 = other.2) ↔
      ∀ pair ∈ pairs, ∀ other ∈ pairs, pair.1 = other.1 → pair.2 = other.2 := by
  constructor
  · intro h pair hpair other hother
    have hsymm : Std.Symm fun pair other : String × Signature =>
        pair.1 = other.1 → pair.2 = other.2 := ⟨fun _ _ hkeeps heq => (hkeeps heq.symm).symm⟩
    exact List.Pairwise.forall_of_forall (fun _ _ _ => rfl) h hpair hother
  · exact fun h => List.pairwise_of_forall_mem_list fun pair hpair other hother =>
      h pair hpair other hother

/-- No type of a named field stands in an unnamed one. -/
def NamedApart (fields : List Field) : Prop :=
  ∀ named ∈ fields, ∀ unnamed ∈ fields, named.isNamed = true → unnamed.isNamed = false →
    ∀ type ∈ named.types.names, type ∉ unnamed.types.names

/-- Verification finds nothing exactly if named and unnamed fields share no type and unnamed fields
that share one are written alike. -/
theorem collision?_eq_none_iff :
    collision? fields = none ↔
      NamedApart fields ∧
        ∀ field ∈ fields, ∀ other ∈ fields, field.isNamed = false → other.isNamed = false →
          ∀ type ∈ field.types.names, type ∈ other.types.names →
            field.signature = other.signature := by
  rw [collision?, firstCollision_eq_none_iff, pairwise_owner_iff]
  constructor
  · rintro ⟨hnamed, -, howner⟩
    refine ⟨fun named hmem unnamed hmem' hnamedTrue hunnamed type htype htype' => ?_,
      fun field hfield other hother hunnamed hunnamed' type htype htype' => ?_⟩
    · exact hnamed (type, unnamed.signature)
        (mem_unnamedTypes.mpr ⟨unnamed, hmem', hunnamed, htype', rfl⟩)
        (mem_namedTypes.mpr ⟨named, hmem, hnamedTrue, htype⟩)
    · exact howner (type, field.signature)
        (mem_unnamedTypes.mpr ⟨field, hfield, hunnamed, htype, rfl⟩) (type, other.signature)
        (mem_unnamedTypes.mpr ⟨other, hother, hunnamed', htype', rfl⟩) rfl
  · rintro ⟨happart, halike⟩
    refine ⟨fun ⟨type, signature⟩ hpair htype => ?_, by simp,
      fun ⟨type, signature⟩ hpair ⟨type', signature'⟩ hpair' heq => ?_⟩
    · obtain ⟨unnamed, hmem, hunnamed, htype', -⟩ := mem_unnamedTypes.mp hpair
      obtain ⟨named, hmem', hnamed, htypeNamed⟩ := mem_namedTypes.mp htype
      exact happart named hmem' unnamed hmem hnamed hunnamed type htypeNamed htype'
    · obtain ⟨field, hfield, hunnamed, htype, rfl⟩ := mem_unnamedTypes.mp hpair
      obtain ⟨other, hother, hunnamed', htype', rfl⟩ := mem_unnamedTypes.mp hpair'
      obtain rfl : type = type' := heq
      exact halike field hfield other hother hunnamed hunnamed' type htype htype'

end Unify

end ScanSchema
