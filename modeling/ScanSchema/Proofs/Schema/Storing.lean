import Mathlib.Data.List.Destutter
import ScanSchema.Proofs.Schema.Signature
import ScanSchema.Proofs.Schema.Slots

/-!
# Fields with their signatures kept beside them

A field may be kept with its types as a plain list and with its signature beside what the signature is
made of. Then nothing in the type of a field says that there are types, that they are in order, or that
the signature belongs to them: types are sorted and repeats dropped where a field is made, which fails for
an empty list, and every other operation copies or replaces parts. `Field.stored` is a field kept like
this. It is shown here that the operations on kept fields do to `field.stored` what the operations on
fields do to `field`, and that kept fields of this form are just the well-formed ones.
-/

namespace ScanSchema

/-- No types make up no set, and any others do. -/
theorem TypeSet.ofList?_eq_none_iff {names : List String} : ofList? names = none ↔ names = [] := by
  unfold ofList?
  split <;> simp [*]

section Sorting

/-- Names in ascending order, and of equal ones that stand together only the first. -/
def sortedApart (names : List String) : List String :=
  (names.mergeSort (· ≤ ·)).destutter (· ≠ ·)

/-- Leaving out names that follow themselves loses no name. -/
theorem mem_destutter'_ne {name first : String} {names : List String} :
    name ∈ names.destutter' (· ≠ ·) first ↔ name = first ∨ name ∈ names := by
  induction names generalizing first with
  | nil => simp
  | cons second rest ih =>
    rw [List.destutter'_cons, List.mem_cons]
    split
    · rw [List.mem_cons, ih]
    next hsame =>
      obtain rfl : first = second := not_not.mp hsame
      rw [ih, ← or_assoc, or_self]

/-- Names in order are in strict order without them. -/
theorem pairwise_destutter'_ne {first : String} {names : List String}
    (h : (first :: names).Pairwise (· ≤ ·)) : (names.destutter' (· ≠ ·) first).Pairwise (· < ·) := by
  induction names generalizing first with
  | nil => simp
  | cons second rest ih =>
    obtain ⟨hfirst, hrest⟩ := List.pairwise_cons.mp h
    have hsecond : first ≤ second := hfirst second List.mem_cons_self
    rw [List.destutter'_cons]
    split
    next hne =>
      refine List.pairwise_cons.mpr ⟨fun name hname => ?_, ih hrest⟩
      have hle : second ≤ name := by
        rcases mem_destutter'_ne.mp hname with rfl | hname
        · exact String.le_refl name
        · exact (List.pairwise_cons.mp hrest).1 name hname
      have hdiffers : name ≠ first := by
        rintro rfl
        exact hne (String.le_antisymm hsecond hle)
      exact lt_of_not_lt_of_ne (String.not_lt.mpr (String.le_trans hsecond hle)) hdiffers
    next hsame =>
      obtain rfl : first = second := not_not.mp hsame
      exact ih hrest

/-- The sorted names are the names in the list. -/
theorem mem_sortedApart {name : String} {names : List String} :
    name ∈ sortedApart names ↔ name ∈ names := by
  have hsorted : name ∈ names.mergeSort (· ≤ ·) ↔ name ∈ names := List.mem_mergeSort
  rw [← hsorted, sortedApart]
  cases names.mergeSort (· ≤ ·) with
  | nil => exact Iff.rfl
  | cons first rest => rw [List.destutter_cons', mem_destutter'_ne, List.mem_cons]

/-- They ascend, without repeats. -/
theorem pairwise_sortedApart (names : List String) : (sortedApart names).Pairwise (· < ·) := by
  have htrans : ∀ a b c : String, decide (a ≤ b) = true → decide (b ≤ c) = true →
      decide (a ≤ c) = true := fun a b c hab hbc =>
    decide_eq_true (String.le_trans (of_decide_eq_true hab) (of_decide_eq_true hbc))
  have htotal : ∀ a b : String, (decide (a ≤ b) || decide (b ≤ a)) = true := fun a b => by
    simpa using String.le_total a b
  have hsorted : (names.mergeSort (· ≤ ·)).Pairwise (· ≤ ·) :=
    (List.pairwise_mergeSort htrans htotal names).imp of_decide_eq_true
  rw [sortedApart]
  cases hnames : names.mergeSort (· ≤ ·) with
  | nil => exact List.Pairwise.nil
  | cons first rest => exact pairwise_destutter'_ne (hnames ▸ hsorted)

/-- Sorting and dropping repeats gives every name once, in ascending order. -/
theorem sortedApart_eq (names : List String) : sortedApart names = sortNames names :=
  eq_of_pairwise_of_mem_iff (pairwise_sortedApart names) (pairwise_sortNames names) fun _ =>
    mem_sortedApart.trans mem_sortNames.symm

/-- The names of a set stay as they are. -/
theorem sortedApart_names (types : TypeSet) : sortedApart types.names = types.names :=
  eq_of_pairwise_of_mem_iff (pairwise_sortedApart types.names) types.ascending fun _ => mem_sortedApart

end Sorting

/-- A field as it is kept. -/
structure StoredField where
  /-- The given name, or the one derived from the types. -/
  name : String
  /-- Whether the name was given. -/
  isNamed : Bool
  /-- The types. -/
  types : List String
  /-- Whether the field may be merged with others into one. -/
  isMergeable : Bool
  /-- Whether the slot may be empty. -/
  isNullable : Bool := false
  /-- Whether the slot holds a list. -/
  isList : Bool := false
  /-- How the symbol is stored, if that was said. -/
  mapping : Option Mapping := none
  /-- The key of the slot. -/
  signature : Signature
  deriving DecidableEq, Repr

namespace StoredField

/-- The given name. -/
def givenName? (field : StoredField) : Option String :=
  if field.isNamed then some field.name else none

/-- The key of a slot with or without a given name. -/
def signatureOf (name : Option String) (types : List String) : Signature :=
  match name with
  | some name => ⟨name ++ "=" ++ "|".intercalate types⟩
  | none => ⟨"|".intercalate types⟩

/-- A field of some types, of which there must be one. -/
def ofList (name : Option String) (types : List String) (isMergeable : Bool) :
    Except Misuse StoredField :=
  match sortedApart types with
  | [] => .error .fieldWithoutTypes
  | first :: rest =>
    .ok
      { name := name.getD first
        isNamed := name.isSome
        types := first :: rest
        isMergeable
        signature := signatureOf name (first :: rest) }

/-- A mergeable field of one type without a given name. -/
def unnamed (type : String) : Except Misuse StoredField := ofList none [type] true

/-- A field of a given name that is not mergeable. -/
def named (name : String) (types : List String) : Except Misuse StoredField :=
  ofList (some name) types false

/-- The field with a mapping. -/
def withMapping (field : StoredField) (mapping : Mapping) : StoredField :=
  { field with mapping := some mapping }

/-- The field as one that may be empty. -/
def makeNullable (field : StoredField) : StoredField := { field with isNullable := true }

/-- The field as one that holds a list. -/
def makeList (field : StoredField) : StoredField := { field with isList := true }

/-- Whether another field can be an occurrence of the same slot. -/
def compatible (field other : StoredField) : Bool :=
  other.isNamed == field.isNamed && other.isList == field.isList &&
    (!field.isNamed || other.name == field.name)

/-- Merge all occurrences of a slot. A field is made of their types and then completed; the name of one
that has no given name is replaced afterwards. -/
def merge? (name : Option String) : List StoredField → Except Misuse (Option StoredField)
  | [] => .ok none
  | first :: others =>
    if others.all first.compatible then do
      let fields := first :: others
      let merged ← ofList first.givenName? (fields.flatMap (·.types)) (fields.all (·.isMergeable))
      let called :=
        if first.isNamed then merged else { merged with name := name.getD first.name }
      return some { called with
        isNullable := fields.any (·.isNullable)
        isList := first.isList
        mapping := fields.findSome? (·.mapping) }
    else .ok none

/-- The written form: signature, `[]` for a list, and `?` if the slot may be empty. -/
def toText (field : StoredField) : String :=
  field.signature.text ++ (if field.isList then "[]" else "") ++
    (if field.isNullable then "?" else "")

/-- There are types, they are in ascending order without repeats, and the signature is made of them and
of the given name. -/
structure WellFormed (field : StoredField) : Prop where
  /-- There is a type. -/
  types_ne_nil : field.types ≠ []
  /-- The types are in ascending order without repeats. -/
  ascending : field.types.Pairwise (· < ·)
  /-- The signature is that of the name and the types. -/
  signature_eq : field.signature = signatureOf field.givenName? field.types

end StoredField

/-- The field as it is kept. -/
def Field.stored (field : Field) : StoredField where
  name := field.name
  isNamed := field.isNamed
  types := field.types.names
  isMergeable := field.isMergeable
  isNullable := field.isNullable
  isList := field.isList
  mapping := field.mapping
  signature := field.signature

namespace StoredField

variable {field other first : Field} {fields others : List Field}

section Parts

/-- The signature is computed from the names of the types. -/
theorem signatureOf_names (name : Option String) (types : TypeSet) :
    signatureOf name types.names = Field.signatureOf name types := by
  cases name with
  | none => rfl
  | some name => rfl

/-- A field is well-formed as it is kept. -/
theorem wellFormed_stored (field : Field) : field.stored.WellFormed where
  types_ne_nil := field.types.names_ne_nil
  ascending := field.types.ascending
  signature_eq := (signatureOf_names field.givenName? field.types).symm

/-- Every well-formed field is kept for some field. -/
theorem exists_stored_eq {field : StoredField} (h : field.WellFormed) :
    ∃ original : Field, original.stored = field := by
  obtain ⟨name, isNamed, types, isMergeable, isNullable, isList, mapping, signature⟩ := field
  obtain ⟨hne, hascending, hsignature⟩ := h
  have hsame : signature = Field.signatureOf (if isNamed then some name else none)
      ⟨types, hne, hascending⟩ := hsignature.trans (signatureOf_names _ ⟨types, hne, hascending⟩)
  rw [hsame]
  exact ⟨⟨name, isNamed, ⟨types, hne, hascending⟩, isMergeable, isNullable, isList, mapping⟩, rfl⟩

/-- The well-formed fields are those that are kept of a field. -/
theorem wellFormed_iff {field : StoredField} :
    field.WellFormed ↔ ∃ original : Field, original.stored = field :=
  ⟨exists_stored_eq, by
    rintro ⟨original, rfl⟩
    exact wellFormed_stored original⟩

/-- A field is written as it is kept. -/
theorem toText_stored (field : Field) : field.stored.toText = field.toText := rfl

/-- Kept fields fit together where the fields do. -/
theorem compatible_stored : field.stored.compatible other.stored = field.compatible other := by
  have hname : (other.isNamed == field.isNamed && (!field.isNamed || other.name == field.name)) =
      (field.givenName? == other.givenName?) := by
    rw [Bool.eq_iff_iff, beq_iff_eq, Field.givenName?_eq_iff]
    cases field.isNamed <;> cases other.isNamed <;> simp [@eq_comm _ other.name]
  have hlist : (other.isList == field.isList) = (field.isList == other.isList) := Bool.beq_comm
  rw [Field.compatible, ← hname, ← hlist, Bool.and_right_comm]
  rfl

end Parts

section Making

/-- A field is made of any types that are those of a set. -/
theorem ofList_of_sortedApart_eq {names : List String} {types : TypeSet}
    (h : sortedApart names = types.names) (name : Option String) (isMergeable : Bool) :
    ofList name names isMergeable = .ok (Field.ofTypes name types isMergeable).stored := by
  obtain ⟨sorted, hne, hascending⟩ := types
  obtain ⟨first, rest, rfl⟩ := List.exists_cons_of_ne_nil hne
  rw [ofList, h]
  cases name with
  | none => rfl
  | some name => rfl

/-- A field is kept as it is made; without types, neither is. -/
theorem ofList_eq (name : Option String) (names : List String) (isMergeable : Bool) :
    ofList name names isMergeable = (Field.ofList name names isMergeable).map Field.stored := by
  cases htypes : TypeSet.ofList? names with
  | none =>
    obtain rfl : names = [] := TypeSet.ofList?_eq_none_iff.mp htypes
    rw [ofList, sortedApart_eq]
    rfl
  | some types =>
    have hsorted : sortedApart names = types.names := by
      rw [TypeSet.ofList?, Option.dite_none_left_eq_some] at htypes
      obtain ⟨_, hset⟩ := htypes
      rw [sortedApart_eq, ← Option.some.inj hset]
    rw [ofList_of_sortedApart_eq hsorted, Field.ofList, htypes]
    rfl

/-- Kept fields are merged to what is kept of the merged fields, and never fail for want of types. -/
theorem merge?_map_stored (name : Option String) (fields : List Field) :
    merge? name (fields.map Field.stored) = .ok ((Field.merge? name fields).map Field.stored) := by
  cases fields with
  | nil => rfl
  | cons first others =>
    have hcompatible : (others.map Field.stored).all first.stored.compatible =
        others.all first.compatible := by
      rw [List.all_map]
      exact List.all_congr rfl fun _ => compatible_stored
    have hsorted : sortedApart (((first :: others).map Field.stored).flatMap (·.types)) =
        (first.unionTypes others).names := by
      refine eq_of_pairwise_of_mem_iff (pairwise_sortedApart _) (first.unionTypes others).ascending
        fun type => ?_
      rw [mem_sortedApart, List.flatMap_map, List.mem_flatMap, Field.mem_unionTypes]
      rfl
    have hmergeable : ((first :: others).map Field.stored).all (·.isMergeable) =
        (first :: others).all (·.isMergeable) := by
      rw [List.all_map]
      rfl
    have hnullable : ((first :: others).map Field.stored).any (·.isNullable) =
        (first :: others).any (·.isNullable) := by
      rw [List.any_map]
      rfl
    have hmapping : ((first :: others).map Field.stored).findSome? (·.mapping) =
        (first :: others).findSome? (·.mapping) := by
      rw [List.findSome?_map]
      rfl
    rw [List.map_cons] at hsorted hmergeable hnullable hmapping ⊢
    rw [merge?, Field.merge?, hcompatible]
    split
    · simp only [ofList_of_sortedApart_eq hsorted, hmergeable, hnullable, hmapping]
      obtain ⟨_, isNamed⟩ := first
      cases isNamed with
      | true => rfl
      | false => rfl
    · rfl

end Making

end StoredField

end ScanSchema
