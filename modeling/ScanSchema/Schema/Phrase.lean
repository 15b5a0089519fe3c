import ScanSchema.Schema.Field

/-!
# Phrases

A phrase is the fields of one alternative in order, or of all alternatives once they are unified.
-/

namespace ScanSchema

/-- Some fields in order. -/
structure Phrase where
  /-- The fields. -/
  fields : List Field := []
  deriving DecidableEq, Repr, Inhabited

namespace Phrase

/-- The phrase without fields. -/
def empty : Phrase := {}

/-- The phrase of one mergeable field of one type, without a given name. -/
def single (type : String) : Phrase := ⟨[.unnamed type]⟩

/-- Whether the phrase is one mergeable field. -/
def isSingleElement (phrase : Phrase) : Bool :=
  match phrase.fields with
  | [field] => field.isMergeable
  | _ => false

/-- Whether the phrase is one field without a given name. -/
def isUnnamedField (phrase : Phrase) : Bool :=
  match phrase.fields with
  | [field] => !field.isNamed
  | _ => false

/-- The phrase with every field as one that may be empty. -/
def makeNullable (phrase : Phrase) : Phrase := ⟨phrase.fields.map Field.makeNullable⟩

/-- The written form: the fields with blanks between them. -/
def toText (phrase : Phrase) : String := " ".intercalate (phrase.fields.map Field.toText)

/-- The phrase of one mergeable field with that field as a list. -/
def makeList (phrase : Phrase) : Except Misuse Phrase :=
  if phrase.isSingleElement then .ok ⟨phrase.fields.map Field.makeList⟩
  else .error (.listOfPhrase phrase.toText)

/-- A phrase as JSON. -/
def toJson (phrase : Phrase) : Json := .array (phrase.fields.map Field.toJson)

end Phrase

end ScanSchema
