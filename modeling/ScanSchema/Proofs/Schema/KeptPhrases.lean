import ScanSchema.Proofs.Schema.Merge
import ScanSchema.Proofs.Schema.Storing
import ScanSchema.Proofs.Traversal

/-!
# Phrases of kept fields

Joining and merging phrases sort fields by the signatures that are kept beside them. They are defined here
for kept fields, with every promise looked at where an operation is called: a field is made of at least one
type, and the first field is taken of a phrase that has one. It is shown that they come to the same as for
fields. So what is kept of a phrase is all there is to unification, and the promises are kept: the types of
occurrences that are merged are there because each occurrence has some, and the first field is only taken
of phrases of one field.
-/

namespace ScanSchema

namespace StoredField

open Unify (firstCollision collision)

section Operators

variable (anchor : Span) (diagnostics : Diagnostics)

/-- Part the fields into the first ones of their signatures and the repeated ones. A signature in `seen`
counts as one that came before. -/
def splitRepeats (seen : List Signature) :
    List StoredField → List StoredField × List StoredField
  | [] => ([], [])
  | field :: rest =>
    if field.signature ∈ seen then
      let (firsts, repeats) := splitRepeats seen rest
      (firsts, field :: repeats)
    else
      let (firsts, repeats) := splitRepeats (field.signature :: seen) rest
      (field :: firsts, repeats)

/-- A repeated signature as a diagnostic. -/
def duplicate (field : StoredField) : Diagnostic :=
  (Diagnostic.ofKind .duplicateSignature anchor).withDetail field.signature.text

/-- Occurrences that do not fit together, as a diagnostic. -/
def incompatible (fields : List StoredField) : Diagnostic :=
  (Diagnostic.ofKind .incompatibleFields anchor).withDetail
    (s!"{fields.length} fields: " ++ ", ".intercalate (fields.map toText))

/-- The first type that cannot be attributed to exactly one field. -/
def collision? (fields : List StoredField) : Option Collision :=
  firstCollision ((fields.filter (·.isNamed)).flatMap (·.types)) []
    ((fields.filter (!·.isNamed)).flatMap fun field =>
      field.types.map fun type => (type, field.signature))

/-- Let fields pass if every type belongs to one of them; otherwise report it and drop them. -/
def verify (fields : List StoredField) : List StoredField × Diagnostics :=
  match collision? fields with
  | none => (fields, diagnostics)
  | some found => ([], diagnostics.report (collision anchor found))

/-- Join the phrases of consecutive symbols. -/
def concat (phrases : List (List StoredField)) : List StoredField × Diagnostics :=
  let (firsts, repeats) := splitRepeats [] phrases.flatten
  verify anchor (diagnostics.reportAll (repeats.map (duplicate anchor))) firsts

/-- The given names of all alternatives, a group for each of them. -/
def nameOrder (alternatives : List (List StoredField)) : Precedence String :=
  alternatives.foldl (fun order fields =>
    (fields.foldl (fun order field => (field.givenName?.map order.add).getD order) order).flush) {}

/-- The occurrences of each slot, in the order of first appearance. -/
def buckets (fields : List StoredField) : List (List StoredField) :=
  (fields.map signature).eraseDups.map fun key => fields.filter fun field => field.signature = key

/-- One field of the occurrences of a slot. A field that occurs once stays as it is. -/
def unifyBucket? : List StoredField → Except Misuse (Option StoredField)
  | [field] => .ok (some field)
  | fields => merge? none fields

/-- The occurrences of a slot in `count` alternatives with the field that unites them, if there is one. -/
def slotWithField (count : Nat) (fields : List StoredField) :
    Except Misuse (List StoredField × Option StoredField) := do
  let united ← unifyBucket? fields
  return (fields, united.map fun field => if fields.length < count then field.makeNullable else field)

/-- Whether a phrase is one mergeable field. -/
def isSingleElement : List StoredField → Bool
  | [field] => field.isMergeable
  | _ => false

/-- What merging answers: the fields, the findings, and what the log says. -/
abbrev Answer := List StoredField × Diagnostics × List LogRecord

variable (name : String)

/-- The first field of a phrase. -/
def firstField : List StoredField → Except Misuse StoredField
  | [] => .error (.indexOutOfBounds 0 0)
  | field :: _ => .ok field

/-- Unify alternatives by their first fields. -/
def mergeSingle (phrases : List (List StoredField)) : Except Misuse Answer := do
  let fields ← phrases.mapM firstField
  match ← merge? (some name) fields with
  | some field => return ([field], diagnostics, [])
  | none => return ([], diagnostics.report (incompatible anchor fields), [])

/-- Unify alternatives of any form. -/
def mergeGeneral (phrases : List (List StoredField)) : Except Misuse Answer := do
  let parted := phrases.map (splitRepeats [])
  let alternatives := parted.map (·.1)
  let repeated := diagnostics.reportAll ((parted.flatMap (·.2)).map (duplicate anchor))
  let ordered :=
    if (nameOrder alternatives).result.isNone then
      repeated.report (.ofKind .inconsistentFieldOrder anchor)
    else repeated
  let slots ← (buckets alternatives.flatten).mapM (slotWithField phrases.length)
  let broken := (slots.filter (·.2.isNone)).map (·.1)
  if broken.isEmpty then
    let (fields, verified) := verify anchor ordered (slots.filterMap (·.2))
    return (fields, verified, [⟨.debug, name ++ ": " ++ " ".intercalate (fields.map toText)⟩])
  else
    return ([], ordered.reportAll (broken.map (incompatible anchor)),
      [⟨.debug, name ++ ": unmergeable fields, schema collapsed"⟩])

/-- Unify the phrases of all alternatives. -/
def merge (phrases : List (List StoredField)) : Except Misuse Answer :=
  if phrases = [] then .ok ([], diagnostics, [])
  else if phrases.all isSingleElement then mergeSingle anchor diagnostics name phrases
  else mergeGeneral anchor diagnostics name phrases

end Operators

end StoredField

/-- The phrase as it is kept. -/
def Phrase.stored (phrase : Phrase) : List StoredField := phrase.fields.map Field.stored

/-- The answer with its phrase as that is kept. -/
def Merged.stored (merged : Merged) : StoredField.Answer :=
  (merged.phrase.stored, merged.diagnostics, merged.log)

namespace StoredField

section Joining

variable (anchor : Span) (diagnostics : Diagnostics)

/-- Kept fields repeat where the fields do. -/
theorem splitRepeats_map_stored (seen : List Signature) (fields : List Field) :
    splitRepeats seen (fields.map Field.stored) =
      ((Unify.splitRepeats seen fields).1.map Field.stored,
        (Unify.splitRepeats seen fields).2.map Field.stored) := by
  induction fields generalizing seen with
  | nil => rfl
  | cons field rest ih =>
    have hsignature : field.stored.signature = field.signature := rfl
    rw [List.map_cons, splitRepeats, Unify.splitRepeats, hsignature]
    split
    · rw [ih]
      rfl
    · rw [ih]
      rfl

/-- Kept fields collide where the fields do. -/
theorem collision?_map_stored (fields : List Field) :
    collision? (fields.map Field.stored) = Unify.collision? fields := by
  have hnamed : ((fields.map Field.stored).filter (·.isNamed)).flatMap (·.types) =
      Unify.namedTypes fields := by
    rw [Unify.namedTypes, List.filter_map, List.flatMap_map]
    rfl
  have hunnamed : (((fields.map Field.stored).filter (!·.isNamed)).flatMap fun field =>
      field.types.map fun type => (type, field.signature)) = Unify.unnamedTypes fields := by
    rw [Unify.unnamedTypes, List.filter_map, List.flatMap_map]
    rfl
  rw [collision?, hnamed, hunnamed]
  rfl

/-- Kept phrases pass where the phrases do. -/
theorem verify_stored (phrase : Phrase) :
    verify anchor diagnostics phrase.stored =
      ((Unify.verify phrase anchor diagnostics).1.stored,
        (Unify.verify phrase anchor diagnostics).2) := by
  rw [verify, Unify.verify, Phrase.stored, collision?_map_stored]
  cases Unify.collision? phrase.fields with
  | none => rfl
  | some found => rfl

/-- The fields of kept phrases are the kept fields of the phrases. -/
theorem flatten_map_stored (phrases : List Phrase) :
    (phrases.map Phrase.stored).flatten = (phrases.flatMap (·.fields)).map Field.stored := by
  rw [List.map_flatMap]
  rfl

/-- Repeats are worded as they are kept. -/
theorem map_duplicate_stored (fields : List Field) :
    (fields.map Field.stored).map (duplicate anchor) = fields.map (Unify.duplicate anchor) := by
  rw [List.map_map]
  rfl

/-- Occurrences that disagree are worded as they are kept. -/
theorem incompatible_map_stored (fields : List Field) :
    incompatible anchor (fields.map Field.stored) = Unify.incompatible anchor fields := by
  rw [incompatible, Unify.incompatible, List.length_map, List.map_map]
  rfl

/-- Phrases are written as they are kept. -/
theorem map_toText_stored (phrase : Phrase) :
    phrase.stored.map toText = phrase.fields.map Field.toText := by
  rw [Phrase.stored, List.map_map]
  exact List.map_congr_left fun field _ => toText_stored field

/-- Kept phrases are joined to what is kept of the joined phrase. -/
theorem concat_map_stored (phrases : List Phrase) :
    concat anchor diagnostics (phrases.map Phrase.stored) =
      ((ScanSchema.concat phrases anchor diagnostics).1.stored,
        (ScanSchema.concat phrases anchor diagnostics).2) := by
  rw [concat, ScanSchema.concat, flatten_map_stored, splitRepeats_map_stored]
  simp only [map_duplicate_stored]
  exact verify_stored anchor _ ⟨_⟩

end Joining

section Merging

variable (anchor : Span) (diagnostics : Diagnostics) (name : String)

/-- Kept fields ask for the same order of names. -/
theorem nameOrder_map_stored (alternatives : List (List Field)) :
    nameOrder (alternatives.map (List.map Field.stored)) = Unify.nameOrder alternatives := by
  have hnames : ∀ (order : Precedence String) (fields : List Field),
      (fields.map Field.stored).foldl
        (fun order field => (field.givenName?.map order.add).getD order) order =
      fields.foldl (fun order field => (field.givenName?.map order.add).getD order) order :=
    fun order fields => List.foldl_map
  rw [nameOrder, Unify.nameOrder, List.foldl_map]
  simp only [hnames]
  rfl

/-- Kept fields fall into the same buckets. -/
theorem buckets_map_stored (fields : List Field) :
    buckets (fields.map Field.stored) = (Unify.buckets fields).map (List.map Field.stored) := by
  have hkeys : (fields.map Field.stored).map signature = fields.map Field.signature := by
    rw [List.map_map]
    rfl
  rw [buckets, Unify.buckets, hkeys, List.map_map]
  refine List.map_congr_left fun key _ => ?_
  rw [List.filter_map]
  rfl

/-- Kept occurrences are united to what is kept of the field that unites them. -/
theorem slotWithField_map_stored (count : Nat) (fields : List Field) :
    slotWithField count (fields.map Field.stored) =
      .ok (fields.map Field.stored, (Unify.composite? count fields).map Field.stored) := by
  have hunited : unifyBucket? (fields.map Field.stored) =
      .ok ((Unify.unifyBucket? fields).map Field.stored) := by
    match fields with
    | [] => rfl
    | [_] => rfl
    | first :: second :: rest => exact merge?_map_stored none (first :: second :: rest)
  rw [slotWithField, hunited, Unify.composite?, List.length_map]
  cases Unify.unifyBucket? fields with
  | none => rfl
  | some field =>
    simp only [bind, Except.bind, Option.map_some]
    split
    · rfl
    · rfl

/-- A phrase of one mergeable field is kept as one. -/
theorem isSingleElement_stored (phrase : Phrase) :
    isSingleElement phrase.stored = phrase.isSingleElement := by
  obtain ⟨fields⟩ := phrase
  match fields with
  | [] => rfl
  | [_] => rfl
  | _ :: _ :: _ => rfl

/-- There is a first field in every phrase of one field. -/
theorem mapM_firstField {phrases : List Phrase} (h : phrases.all Phrase.isSingleElement = true) :
    (phrases.map Phrase.stored).mapM firstField =
      .ok ((phrases.flatMap (·.fields)).map Field.stored) := by
  induction phrases with
  | nil => rfl
  | cons phrase rest ih =>
    rw [List.all_cons, Bool.and_eq_true] at h
    obtain ⟨only, honly⟩ := Unify.exists_fields_eq_of_isSingleElement h.1
    have hfirst : firstField phrase.stored = .ok only.stored := by
      rw [Phrase.stored, honly]
      rfl
    rw [List.map_cons, List.mapM_cons, hfirst, ih h.2, List.flatMap_cons, honly]
    rfl

/-- Alternatives that are all one field are united by their first fields to what is kept of the
answer. -/
theorem mergeSingle_map_stored {phrases : List Phrase}
    (h : phrases.all Phrase.isSingleElement = true) :
    mergeSingle anchor diagnostics name (phrases.map Phrase.stored) =
      .ok (Unify.mergeSingle name (phrases.flatMap (·.fields)) anchor diagnostics).stored := by
  rw [mergeSingle, mapM_firstField h, Unify.mergeSingle]
  simp only [bind, Except.bind, merge?_map_stored, incompatible_map_stored]
  cases Field.merge? (some name) (phrases.flatMap (·.fields)) with
  | none => rfl
  | some field => rfl

/-- The same fields of each kept phrase are its first ones. -/
theorem kept_map_stored (phrases : List Phrase) :
    ((phrases.map Phrase.stored).map (splitRepeats [])).map (·.1) =
      (Unify.kept phrases).map (List.map Field.stored) := by
  rw [Unify.kept, Unify.parted, List.map_map, List.map_map, List.map_map, List.map_map]
  refine List.map_congr_left fun phrase _ => ?_
  exact congrArg Prod.fst (splitRepeats_map_stored [] phrase.fields)

/-- And the same fields are the repeated ones. -/
theorem repeats_map_stored (phrases : List Phrase) :
    ((phrases.map Phrase.stored).map (splitRepeats [])).flatMap (·.2) =
      (Unify.repeats phrases).map Field.stored := by
  rw [Unify.repeats, Unify.parted, List.map_map, List.flatMap_map, List.flatMap_map,
    List.map_flatMap]
  refine List.flatMap_congr fun phrase _ => ?_
  exact congrArg Prod.snd (splitRepeats_map_stored [] phrase.fields)

/-- In general kept phrases merge to what is kept of the merged phrase, and no promise is broken. -/
theorem mergeGeneral_map_stored (phrases : List Phrase) :
    mergeGeneral anchor diagnostics name (phrases.map Phrase.stored) =
      .ok (Unify.mergeGeneral name phrases anchor diagnostics).stored := by
  have hslots : (buckets ((Unify.kept phrases).map (List.map Field.stored)).flatten).mapM
      (slotWithField phrases.length) = .ok ((Unify.slots phrases).map fun slot =>
        (slot.map Field.stored, (Unify.composite? phrases.length slot).map Field.stored)) := by
    rw [← List.map_flatten, buckets_map_stored, List.mapM_map]
    exact mapM_eq_ok_map fun slot _ => slotWithField_map_stored phrases.length slot
  have hbroken : (((Unify.slots phrases).map fun slot => (slot.map Field.stored,
      (Unify.composite? phrases.length slot).map Field.stored)).filter (·.2.isNone)).map (·.1) =
        (Unify.broken phrases).map (List.map Field.stored) := by
    rw [List.filter_map, List.map_map, Unify.broken]
    simp only [Function.comp_def, Option.isNone_map]
  have hunited : ((Unify.slots phrases).map fun slot => (slot.map Field.stored,
      (Unify.composite? phrases.length slot).map Field.stored)).filterMap (·.2) =
        (Unify.united phrases).map Field.stored := by
    rw [List.filterMap_map, Unify.united, List.map_filterMap]
    rfl
  have hincompatible : ((Unify.broken phrases).map (List.map Field.stored)).map (incompatible anchor) =
      (Unify.broken phrases).map (Unify.incompatible anchor) := by
    rw [List.map_map]
    exact List.map_congr_left fun slot _ => incompatible_map_stored anchor slot
  rw [mergeGeneral, Unify.mergeGeneral_eq]
  simp only [kept_map_stored, repeats_map_stored, map_duplicate_stored, nameOrder_map_stored,
    List.length_map, hslots, ← Unify.early_eq, bind, Except.bind, hbroken, hunited, hincompatible,
    List.isEmpty_map]
  split
  · have hverified := verify_stored anchor (Unify.early phrases anchor diagnostics)
      ⟨Unify.united phrases⟩
    rw [Phrase.stored] at hverified
    rw [hverified, Merged.stored, Phrase.toText, ← map_toText_stored]
    rfl
  · rfl

/-- Kept phrases are merged to what is kept of the answer. -/
theorem merge_map_stored (phrases : List Phrase) :
    merge anchor diagnostics name (phrases.map Phrase.stored) =
      .ok (ScanSchema.merge name phrases anchor diagnostics).stored := by
  have hsingle : (phrases.map Phrase.stored).all isSingleElement =
      phrases.all Phrase.isSingleElement := by
    rw [List.all_map]
    exact List.all_congr rfl fun phrase => isSingleElement_stored phrase
  simp only [merge, ScanSchema.merge, List.map_eq_nil_iff, hsingle]
  split
  · rfl
  split
  next hall => exact mergeSingle_map_stored anchor diagnostics name hall
  · exact mergeGeneral_map_stored anchor diagnostics name phrases

end Merging

end StoredField

end ScanSchema
