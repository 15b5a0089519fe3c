import Mathlib.Data.List.Nodup
import ScanSchema.Proofs.Schema.Collision
import ScanSchema.Proofs.Schema.Findings
import ScanSchema.Proofs.Schema.Occurrences

/-!
# What becomes of phrases that are joined

Joining keeps the first field of each signature and reports every further one. Then it looks for a type
that cannot be attributed to one of the fields that are kept. As these have different signatures,
verification tells all of them apart: it finds something exactly if there is such a type, and what it
finds is one. So the answer is either all that was kept, or nothing and one report of a type that really
clashes. In either case it passes when it is joined again.
-/

namespace ScanSchema

/-- The type of the collision really stands in two of some fields, a named and an unnamed one or two
different unnamed ones. -/
def Collision.ClashesIn (fields : List Field) : Collision → Prop
  | .namedUnnamed type => ∃ named ∈ fields, ∃ unnamed ∈ fields,
      named.isNamed = true ∧ unnamed.isNamed = false ∧
        type ∈ named.types.names ∧ type ∈ unnamed.types.names
  | .unnamedTwice type => ∃ field ∈ fields, ∃ other ∈ fields, field ≠ other ∧
      field.isNamed = false ∧ other.isNamed = false ∧
        type ∈ field.types.names ∧ type ∈ other.types.names

namespace Unify

variable {fields : List Field} {found : Collision}

section Clashes

/-- What is found is a type that is named, or one that belongs to two pairs with different
signatures. -/
theorem of_firstCollision_eq_some {named : List String} {owners pairs : List (String × Signature)}
    (all : List (String × Signature)) (howners : ∀ owner ∈ owners, owner ∈ all)
    (hpairs : ∀ pair ∈ pairs, pair ∈ all) (h : firstCollision named owners pairs = some found) :
    (∃ pair ∈ all, pair.1 ∈ named ∧ found = .namedUnnamed pair.1) ∨
      ∃ owner ∈ all, ∃ pair ∈ all,
        owner.1 = pair.1 ∧ owner.2 ≠ pair.2 ∧ found = .unnamedTwice pair.1 := by
  induction pairs generalizing owners with
  | nil => cases h
  | cons first rest ih =>
    obtain ⟨hfirst, hrest⟩ := List.forall_mem_cons.mp hpairs
    unfold firstCollision at h
    split at h
    next hnamed =>
      cases h
      exact .inl ⟨first, hfirst, hnamed, rfl⟩
    next =>
      split at h
      next => exact ih (List.forall_mem_cons.mpr ⟨hfirst, howners⟩) hrest h
      next owner howner =>
        split at h
        next => exact ih howners hrest h
        next hother =>
          cases h
          obtain ⟨front, back, hsplit, -⟩ := List.lookup_eq_some_iff.mp howner
          have hmem : (first.1, owner) ∈ owners := hsplit ▸ by simp
          exact .inr ⟨_, howners _ hmem, first, hfirst, rfl, hother, rfl⟩

/-- A collision that is found is a clash. -/
theorem clashesIn_of_collision? (h : collision? fields = some found) : found.ClashesIn fields := by
  rcases of_firstCollision_eq_some (unnamedTypes fields) (by simp) (fun _ => id) h with
    ⟨⟨type, signature⟩, hpair, hnamed, rfl⟩ |
      ⟨⟨type, owner⟩, howner, ⟨type', signature⟩, hpair, rfl, hne, rfl⟩
  · obtain ⟨named, hnamed, hisNamed, htype⟩ := mem_namedTypes.mp hnamed
    obtain ⟨unnamed, hunnamed, hisUnnamed, htype', -⟩ := mem_unnamedTypes.mp hpair
    exact ⟨named, hnamed, unnamed, hunnamed, hisNamed, hisUnnamed, htype, htype'⟩
  · obtain ⟨field, hfield, hunnamed, htype, rfl⟩ := mem_unnamedTypes.mp howner
    obtain ⟨other, hother, hunnamed', htype', rfl⟩ := mem_unnamedTypes.mp hpair
    have hdifferent : field ≠ other := fun heq => hne (congrArg Field.signature heq)
    exact ⟨field, hfield, other, hother, hdifferent, hunnamed, hunnamed', htype, htype'⟩

/-- Among fields of different signatures nothing is found exactly if no type clashes. -/
theorem collision?_eq_none_iff_not_clashesIn (hnodup : (fields.map Field.signature).Nodup) :
    collision? fields = none ↔ ∀ found : Collision, ¬ found.ClashesIn fields := by
  constructor
  · intro hnone found hclash
    obtain ⟨happart, halike⟩ := collision?_eq_none_iff.mp hnone
    cases found with
    | namedUnnamed type =>
      obtain ⟨named, hnamed, unnamed, hunnamed, hisNamed, hisUnnamed, htype, htype'⟩ := hclash
      exact happart named hnamed unnamed hunnamed hisNamed hisUnnamed type htype htype'
    | unnamedTwice type =>
      obtain ⟨field, hfield, other, hother, hne, hunnamed, hunnamed', htype, htype'⟩ := hclash
      have hsignature := halike field hfield other hother hunnamed hunnamed' type htype htype'
      exact hne (List.inj_on_of_nodup_map hnodup hfield hother hsignature)
  · intro hnot
    refine Option.eq_none_iff_forall_not_mem.mpr fun found hfound => ?_
    exact hnot found (clashesIn_of_collision? hfound)

end Clashes

section Answers

variable {phrases : List Phrase} (anchor : Span) (diagnostics : Diagnostics)

/-- The first fields of their signatures have different ones. -/
theorem nodup_firstFields (fields : List Field) :
    ((firstFields fields).map Field.signature).Nodup := by
  have hnodup : ((splitRepeats [] fields).1.map Field.signature).Nodup := nodup_splitRepeats.1
  rwa [splitRepeats_eq] at hnodup

/-- Where no signature comes twice, every field is the first one of its signature. -/
theorem firstFields_of_nodup (hnodup : (fields.map Field.signature).Nodup) :
    firstFields fields = fields ∧ furtherFields fields = [] := by
  have hrepeats : (splitRepeats [] fields).2 = [] :=
    splitRepeats_snd_eq_nil hnodup fun _ _ => List.not_mem_nil
  have hfirsts := splitRepeats_fst_of_snd_eq_nil hrepeats
  rw [splitRepeats_eq] at hrepeats hfirsts
  exact ⟨hfirsts, hrepeats⟩

/-- What fields are joined to is a matter of the first fields. -/
theorem joined_eq (fields : List Field) :
    joined fields =
      if collision? (firstFields fields) = none then ⟨firstFields fields⟩ else .empty := by
  rw [joined, splitRepeats_eq]

/-- What is found are the further fields and the collision of the first ones. -/
theorem concatFindings_eq (fields : List Field) :
    concatFindings anchor fields =
      (furtherFields fields).map (duplicate anchor) ++
        (collision? (firstFields fields)).toList.map (collision anchor) := by
  rw [concatFindings, splitRepeats_eq]

/-- If the first fields do not collide, they are the answer, and the further ones are reported. -/
theorem concat_of_collision?_eq_none
    (h : collision? (firstFields (phrases.flatMap (·.fields))) = none) :
    concat phrases anchor diagnostics =
      (⟨firstFields (phrases.flatMap (·.fields))⟩,
        diagnostics.reportAll
          ((furtherFields (phrases.flatMap (·.fields))).map (duplicate anchor))) := by
  rw [concat_eq, joined_eq, if_pos h, concatFindings_eq, h, Option.toList_none, List.map_nil,
    List.append_nil]

/-- If they collide, nothing is left, and the collision is reported behind the further fields. -/
theorem concat_of_collision?_eq_some
    (h : collision? (firstFields (phrases.flatMap (·.fields))) = some found) :
    concat phrases anchor diagnostics =
      (.empty, (diagnostics.reportAll
        ((furtherFields (phrases.flatMap (·.fields))).map (duplicate anchor))).report
          (collision anchor found)) := by
  rw [concat_eq, joined_eq, if_neg (by simp [h]), concatFindings_eq, h,
    ← Diagnostics.reportAll_reportAll]
  rfl

/-- The first fields are the answer, without another report than those of the further ones, exactly if
they do not collide. -/
theorem concat_eq_firstFields_iff_collision? :
    concat phrases anchor diagnostics =
        (⟨firstFields (phrases.flatMap (·.fields))⟩,
          diagnostics.reportAll
            ((furtherFields (phrases.flatMap (·.fields))).map (duplicate anchor))) ↔
      collision? (firstFields (phrases.flatMap (·.fields))) = none := by
  refine ⟨fun hkept => ?_, concat_of_collision?_eq_none anchor diagnostics⟩
  -- A report of a collision would come on top of those about further fields.
  rw [concat_eq, concatFindings_eq, ← Diagnostics.reportAll_reportAll] at hkept
  have hentries := List.append_right_eq_self.mp (congrArg (·.2.entries) hkept)
  rwa [List.map_eq_nil_iff, Option.toList_eq_nil_iff] at hentries

/-- Verification finds nothing in a phrase that was joined. -/
theorem collision?_joined (fields : List Field) : collision? (joined fields).fields = none := by
  unfold joined
  split
  next hnone => exact hnone
  next => rfl

/-- A phrase without repeats and collisions is joined to itself. -/
theorem concat_singleton {phrase : Phrase} (hnodup : (phrase.fields.map Field.signature).Nodup)
    (hnone : collision? phrase.fields = none) :
    concat [phrase] anchor diagnostics = (phrase, diagnostics) := by
  obtain ⟨hfirsts, hfurther⟩ := firstFields_of_nodup hnodup
  have hfields : [phrase].flatMap (·.fields) = phrase.fields := List.flatMap_singleton _ _
  have hpasses : collision? (firstFields ([phrase].flatMap (·.fields))) = none := by
    rw [hfields, hfirsts, hnone]
  rw [concat_of_collision?_eq_none anchor diagnostics hpasses, hfields, hfirsts, hfurther]
  exact congrArg (phrase, ·) (congrArg Diagnostics.mk (List.append_nil _))

end Answers

end Unify

/-- Joining keeps the first field of each signature and reports every further one. Exactly if no type
clashes, what is kept is the answer and nothing else is reported; otherwise nothing is left, and one
clash is reported behind the repeats. The answer is joined again to itself. -/
theorem Phrase.concat_eq_firstFields_iff (phrases : List Phrase) (anchor again : Span)
    (diagnostics others : Diagnostics) :
    let fields := phrases.flatMap (·.fields)
    let kept := Unify.firstFields fields
    let repeated := diagnostics.reportAll
      ((Unify.furtherFields fields).map (Unify.duplicate anchor))
    (concat phrases anchor diagnostics = (⟨kept⟩, repeated) ↔
        ∀ found : Collision, ¬ found.ClashesIn kept) ∧
      ((∃ found : Collision, found.ClashesIn kept) ↔ ∃ found : Collision, found.ClashesIn kept ∧
        concat phrases anchor diagnostics =
          (.empty, repeated.report (Unify.collision anchor found))) ∧
      concat [(concat phrases anchor diagnostics).1] again others =
        ((concat phrases anchor diagnostics).1, others) := by
  intro fields kept repeated
  have hclashes : Unify.collision? kept = none ↔ ∀ found : Collision, ¬ found.ClashesIn kept :=
    Unify.collision?_eq_none_iff_not_clashesIn (Unify.nodup_firstFields fields)
  refine ⟨(Unify.concat_eq_firstFields_iff_collision? anchor diagnostics).trans hclashes,
    ⟨?_, fun ⟨found, hclash, _⟩ => ⟨found, hclash⟩⟩, ?_⟩
  · rintro ⟨clash, hclash⟩
    have hfinds : Unify.collision? kept ≠ none := fun hnone => hclashes.mp hnone clash hclash
    obtain ⟨found, hfound⟩ := Option.ne_none_iff_exists'.mp hfinds
    exact ⟨found, Unify.clashesIn_of_collision? hfound,
      Unify.concat_of_collision?_eq_some anchor diagnostics hfound⟩
  · have hjoined : (concat phrases anchor diagnostics).1 = Unify.joined fields :=
      congrArg Prod.fst (Unify.concat_eq phrases anchor diagnostics)
    rw [hjoined]
    exact Unify.concat_singleton again others (Unify.nodup_joined fields)
      (Unify.collision?_joined fields)

end ScanSchema
