import ScanSchema.Json.Basic
import ScanSchema.Misuse
import ScanSchema.Schema.Mapping
import ScanSchema.Schema.TypeSet

/-!
# Fields

A field is one slot of a syntax tree node: a name, given or derived from its types, the types it
admits, and what else is known of it. Fields of different alternatives are the same slot when their
signatures agree. `Field.merge?` makes one field of all occurrences of a slot.
-/

namespace ScanSchema

/-- The key of a slot: the types with bars between them, behind the name and an equals sign if a
name was given. -/
structure Signature where
  /-- The key. -/
  text : String
  deriving DecidableEq, Repr, Inhabited

/-- One slot of a node. -/
@[ext]
structure Field where
  /-- The given name, or the one derived from the types. -/
  name : String
  /-- Whether the name was given. -/
  isNamed : Bool
  /-- The types that the slot admits. -/
  types : TypeSet
  /-- Whether the field may be merged with others into one. -/
  isMergeable : Bool
  /-- Whether the slot may be empty. -/
  isNullable : Bool := false
  /-- Whether the slot holds a list. -/
  isList : Bool := false
  /-- How the symbol is stored, if that was said. -/
  mapping : Option Mapping := none
  deriving DecidableEq, Repr, Inhabited

namespace Field

/-- A field of given types, with a given name or one derived from the types. -/
def ofTypes (name : Option String) (types : TypeSet) (isMergeable : Bool) : Field where
  name := name.getD types.first
  isNamed := name.isSome
  types := types
  isMergeable := isMergeable

/-- A field of some types, of which there must be one. -/
def ofList (name : Option String) (types : List String) (isMergeable : Bool) :
    Except Misuse Field :=
  match TypeSet.ofList? types with
  | some types => .ok (ofTypes name types isMergeable)
  | none => .error .fieldWithoutTypes

/-- A mergeable field of one type without a given name. -/
def unnamed (type : String) : Field := ofTypes none (.single type) true

/-- The field with a mapping. -/
def withMapping (field : Field) (mapping : Mapping) : Field :=
  { field with mapping := some mapping }

/-- The field as one that may be empty. -/
def makeNullable (field : Field) : Field := { field with isNullable := true }

/-- The field as one that holds a list. -/
def makeList (field : Field) : Field := { field with isList := true }

/-- The given name. -/
def givenName? (field : Field) : Option String := if field.isNamed then some field.name else none

/-- The key of a slot with or without a given name. -/
def signatureOf (name : Option String) (types : TypeSet) : Signature :=
  match name with
  | some name => ⟨name ++ "=" ++ types.toText⟩
  | none => ⟨types.toText⟩

/-- The key of the field's slot. -/
def signature (field : Field) : Signature := signatureOf field.givenName? field.types

/-- The written form: signature, `[]` for a list, and `?` if the slot may be empty. -/
def toText (field : Field) : String :=
  field.signature.text ++ (if field.isList then "[]" else "") ++
    (if field.isNullable then "?" else "")

/-- Whether two fields can be occurrences of one slot: both named alike or both unnamed, and both
lists or neither. -/
def compatible (field other : Field) : Bool :=
  field.givenName? == other.givenName? && field.isList == other.isList

/-- The types of all fields together. -/
def unionTypes (first : Field) (others : List Field) : TypeSet :=
  others.foldr (fun field types => field.types.union types) first.types

/-- Merge all occurrences of a slot. The result admits the types of all of them; it may be empty if
one of them may be, and is mergeable if all of them are. A result without a given name takes `name`
for its name, or else the name of the first occurrence. -/
def merge? (name : Option String) : List Field → Option Field
  | [] => none
  | first :: others =>
    if others.all first.compatible then
      let fields := first :: others
      some
        { name := if first.isNamed then first.name else name.getD first.name
          isNamed := first.isNamed
          types := first.unionTypes others
          isMergeable := fields.all (·.isMergeable)
          isNullable := fields.any (·.isNullable)
          isList := first.isList
          mapping := fields.findSome? (·.mapping) }
    else none

end Field

/-- A mapping as JSON. -/
def Mapping.toJson (mapping : Mapping) : Json :=
  .object [
    ("field", .string mapping.field),
    ("value", (mapping.value.map Json.string).getD .null),
    ("is_addition", .bool mapping.isAddition)]

/-- A field as JSON; a mapping is mentioned only if there is one. -/
def Field.toJson (field : Field) : Json :=
  .object ([
    ("name", .string field.name),
    ("explicit_name", .bool field.isNamed),
    ("types", .array (field.types.names.map Json.string)),
    ("mergeable", .bool field.isMergeable),
    ("nullable", .bool field.isNullable),
    ("list", .bool field.isList)] ++
    (field.mapping.map fun mapping => ("mapping", mapping.toJson)).toList)

end ScanSchema
