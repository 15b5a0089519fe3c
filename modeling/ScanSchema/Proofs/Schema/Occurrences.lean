import Mathlib.Data.List.Induction
import ScanSchema.Proofs.Schema.Merge
import ScanSchema.Proofs.Schema.Precedence

/-!
# Occurrences of a slot

An alternative counts with the first field of each signature, and every further one is a repeat. So
the occurrences of a slot are found without parting anything: they are what a search for the
signature finds in each alternative. Here the parts of a merge are described in these terms. Which
fields are kept and which are dropped is a matter of what stands in front of them, no signature gets
lost or comes later because of dropped fields, and the slots hold the occurrences of all signatures in
the order of first appearance.
-/

namespace ScanSchema

namespace Unify

variable {phrases : List Phrase} {front rest fields : List Field} {field : Field}
  {seen : List Signature} {signature : Signature}

section Repeats

/-- Whether the field in some place has the signature of a field in front of it. -/
def comesAgain (fields : List Field) (item : Field × Nat) : Bool :=
  (fields.take item.2).any fun earlier => earlier.signature = item.1.signature

/-- The fields of an alternative that are the first ones of their signatures. -/
def firstFields (fields : List Field) : List Field :=
  (fields.zipIdx.filter fun item => !comesAgain fields item).map Prod.fst

/-- The fields of an alternative with the signature of a field in front of them. -/
def furtherFields (fields : List Field) : List Field :=
  (fields.zipIdx.filter (comesAgain fields)).map Prod.fst

/-- The first fields stay in their order. -/
theorem sublist_firstFields (fields : List Field) : (firstFields fields).Sublist fields := by
  have hall : fields.zipIdx.map Prod.fst = fields := List.zipIdx_map_fst 0 fields
  have hsublist : (firstFields fields).Sublist (fields.zipIdx.map Prod.fst) :=
    List.filter_sublist.map Prod.fst
  rwa [hall] at hsublist

/-- A field comes again if a field in front of it has its signature. -/
theorem comesAgain_head (front rest : List Field) (field : Field) :
    comesAgain (front ++ field :: rest) (field, front.length) = true ↔
      ∃ earlier ∈ front, earlier.signature = field.signature := by
  have htake : (front ++ field :: rest).take front.length = front := List.take_left
  rw [comesAgain, htake, List.any_eq_true]
  simp only [decide_eq_true_eq]

/-- With the signatures of the fields in front seen, the rest is parted into its first fields and the
further ones. -/
theorem splitRepeats_behind (hseen : ∀ signature, signature ∈ seen ↔
      ∃ earlier ∈ front, earlier.signature = signature) :
    splitRepeats seen rest =
      (((rest.zipIdx front.length).filter fun item => !comesAgain (front ++ rest) item).map Prod.fst,
        ((rest.zipIdx front.length).filter (comesAgain (front ++ rest))).map Prod.fst) := by
  induction rest generalizing front seen with
  | nil => rfl
  | cons field rest ih =>
    have hlength : (front ++ [field]).length = front.length + 1 := List.length_append
    have hfront : front ++ field :: rest = (front ++ [field]) ++ rest := by simp
    have hagain := comesAgain_head front rest field
    rw [← hseen] at hagain
    unfold splitRepeats
    split
    next hold =>
      -- The signature is seen already, and stays so with the field in front of the rest.
      have hstill : ∀ signature, signature ∈ seen ↔
          ∃ earlier ∈ front ++ [field], earlier.signature = signature := by
        grind
      rw [ih hstill, hlength, ← hfront, List.zipIdx_cons,
        List.filter_cons_of_neg (by simp [hagain.mpr hold]),
        List.filter_cons_of_pos (hagain.mpr hold), List.map_cons]
    next hnew =>
      have hnow : ∀ signature, signature ∈ field.signature :: seen ↔
          ∃ earlier ∈ front ++ [field], earlier.signature = signature := by
        grind
      have hfirst := mt hagain.mp hnew
      rw [ih hnow, hlength, ← hfront, List.zipIdx_cons,
        List.filter_cons_of_pos (by simpa using hfirst), List.filter_cons_of_neg hfirst,
        List.map_cons]

/-- An alternative is parted into its first fields and the further ones. -/
theorem splitRepeats_eq (fields : List Field) :
    splitRepeats [] fields = (firstFields fields, furtherFields fields) :=
  have hseen : ∀ signature, signature ∈ ([] : List Signature) ↔
      ∃ earlier ∈ ([] : List Field), earlier.signature = signature := by simp
  splitRepeats_behind hseen

/-- What is kept of an alternative are the first fields of their signatures. -/
theorem kept_eq (phrases : List Phrase) :
    kept phrases = phrases.map fun phrase => firstFields phrase.fields := by
  rw [kept, parted, List.map_map]
  exact List.map_congr_left fun phrase _ => congrArg Prod.fst (splitRepeats_eq phrase.fields)

/-- What is dropped of it are the further ones. -/
theorem repeats_eq (phrases : List Phrase) :
    repeats phrases = phrases.flatMap fun phrase => furtherFields phrase.fields := by
  rw [repeats, parted, List.flatMap_map]
  simp only [splitRepeats_eq]

end Repeats

section Slots

/-- The first field with some signature in each alternative that has one. -/
def occurrences (phrases : List Phrase) (signature : Signature) : List Field :=
  phrases.filterMap fun phrase => phrase.fields.find? fun field => field.signature = signature

/-- Among the first fields there is the one that a search for a signature finds, unless the signature
was seen before. -/
theorem slotOf_splitRepeats :
    slotOf (splitRepeats seen fields).1 signature =
      if signature ∈ seen then []
      else (fields.find? fun field => field.signature = signature).toList := by
  induction fields generalizing seen with
  | nil => simp [splitRepeats, slotOf]
  | cons field rest ih =>
    unfold splitRepeats
    by_cases hsame : field.signature = signature
    · rw [List.find?_cons_of_pos (by simpa using hsame)]
      subst hsame
      split
      next hold =>
        rw [ih, if_pos hold]
      next hnew =>
        have hothers : slotOf (splitRepeats (field.signature :: seen) rest).1 field.signature = [] := by
          rw [ih, if_pos List.mem_cons_self]
        rw [slotOf, List.filter_cons_of_pos (by simp)]
        exact congrArg (field :: ·) hothers
    · rw [List.find?_cons_of_neg (by simpa using hsame)]
      split
      next hold => exact ih
      next hnew =>
        have hothers := @ih (field.signature :: seen)
        simp only [List.mem_cons, Ne.symm hsame, false_or] at hothers
        rw [slotOf, List.filter_cons_of_neg (by simpa using hsame)]
        exact hothers

/-- The slot of a signature holds its occurrences. -/
theorem slotOf_kept (phrases : List Phrase) (signature : Signature) :
    slotOf (kept phrases).flatten signature = occurrences phrases signature := by
  have hfirst : ∀ phrase : Phrase, slotOf (splitRepeats [] phrase.fields).1 signature =
      (phrase.fields.find? fun field => field.signature = signature).toList := fun phrase => by
    rw [slotOf_splitRepeats, if_neg List.not_mem_nil]
  rw [kept, parted, List.map_map, slotOf, List.filter_flatten, List.map_map, ← List.flatMap_def,
    occurrences, List.filterMap_eq_flatMap_toList]
  exact List.flatMap_congr fun phrase _ => hfirst phrase

/-- Signatures in the order of first appearance are collected one by one. -/
theorem eraseDups_eq_foldl_pushNew {α : Type} [DecidableEq α] (items : List α) :
    items.eraseDups = items.foldl Precedence.pushNew [] := by
  induction items using List.reverseRecOn with
  | nil => rfl
  | append_singleton items item ih =>
    rw [List.eraseDups_append, List.foldl_append, ← ih, List.foldl_cons, List.foldl_nil,
      Precedence.pushNew]
    by_cases hmem : item ∈ items
    · simp [List.removeAll, hmem]
    · simp [List.removeAll, hmem, List.eraseDups_cons]

/-- Dropped fields bring no signature that is not there already. -/
theorem foldl_pushNew_splitRepeats {collected : List Signature}
    (hseen : ∀ signature ∈ seen, signature ∈ collected) :
    ((splitRepeats seen fields).1.map Field.signature).foldl Precedence.pushNew collected =
      (fields.map Field.signature).foldl Precedence.pushNew collected := by
  induction fields generalizing seen collected with
  | nil => rfl
  | cons field rest ih =>
    unfold splitRepeats
    rw [List.map_cons, List.foldl_cons]
    split
    next hold =>
      have hsame : Precedence.pushNew collected field.signature = collected :=
        if_pos (hseen _ hold)
      rw [hsame]
      exact ih hseen
    next hnew =>
      refine ih fun signature hmem => ?_
      rw [Precedence.mem_pushNew]
      exact (List.mem_cons.mp hmem).symm.imp_left (hseen signature)

/-- The signatures of the alternatives in the order of first appearance. -/
theorem slotSignatures_kept (phrases : List Phrase) :
    slotSignatures (kept phrases).flatten = slotSignatures (phrases.flatMap (·.fields)) := by
  have hcollect : ∀ collected : List Signature,
      ((kept phrases).flatten.map Field.signature).foldl Precedence.pushNew collected =
        ((phrases.flatMap (·.fields)).map Field.signature).foldl Precedence.pushNew collected := by
    rw [kept, parted, List.map_map]
    induction phrases with
    | nil => exact fun _ => rfl
    | cons phrase rest ih =>
      intro collected
      rw [List.map_cons, List.flatten_cons, List.map_append, List.foldl_append, ih, List.flatMap_cons,
        List.map_append, List.foldl_append]
      refine congrArg (List.foldl Precedence.pushNew · _) ?_
      exact foldl_pushNew_splitRepeats fun _ hnot => absurd hnot List.not_mem_nil
  rw [slotSignatures, slotSignatures, eraseDups_eq_foldl_pushNew, eraseDups_eq_foldl_pushNew,
    hcollect]

/-- The slots are the occurrences of all signatures, in the order of first appearance. -/
theorem slots_eq (phrases : List Phrase) :
    slots phrases = (slotSignatures (phrases.flatMap (·.fields))).map (occurrences phrases) := by
  rw [slots, buckets_eq_map, slotSignatures_kept]
  exact List.map_congr_left fun signature _ => slotOf_kept phrases signature

end Slots

end Unify

end ScanSchema
