import ScanSchema.Json.Reader

/-!
# Records in JSON text

A record has named fields in a fixed order. It is written as an object, with its fields in any
order, or as an array of their values in the fixed order, where optional fields at the end may be
left out. While a record is read, the values found so far are kept in a draft.
-/

namespace ScanSchema.Json

/-- A field of a record whose drafts are of type `δ`. -/
structure Slot (δ : Type) where
  /-- The name of the field. -/
  name : String
  /-- Whether the field may be missing. -/
  isOptional : Bool
  /-- Whether a draft has a value for the field already. -/
  isSet : δ → Bool
  /-- Reads a value and puts it into a draft. -/
  read : Reader (δ → δ)

/-- A record of type `α` with drafts of type `δ`. -/
structure RecordShape (δ α : Type) where
  /-- The name of the record, for reports. -/
  name : String
  /-- The fields in order. -/
  slots : List (Slot δ)
  /-- Whether other fields are refused instead of passed over. -/
  isClosed : Bool
  /-- The draft without any values. -/
  blank : δ
  /-- The record of a draft, or the first required field that is missing. -/
  finish : δ → Except Mismatch α

namespace RecordShape

variable {δ α : Type}

/-- What is expected where the record is expected. -/
def expected (shape : RecordShape δ α) : String := "struct " ++ shape.name

/-- What is expected where the record is an array that is too short. -/
def expectedLength (shape : RecordShape δ α) : String :=
  shape.expected ++ s!" with {shape.slots.length} elements"

/-- The record of a finished draft; a missing field is reported behind the record. -/
def close (shape : RecordShape δ α) (draft : δ) (rest : List Char) : Except Failure α :=
  match shape.finish draft with
  | .ok record => .ok record
  | .error mismatch => failAt (.mismatch mismatch) rest

/-- Report a mismatch inside an object. The place is behind the object's brace if it closes here. -/
def failInside {β : Type} (mismatch : Mismatch) (left : List Char) : Except Failure β :=
  match next left with
  | .done => failAt (.mismatch mismatch) []
  | .char c rest =>
    if c = '\x7d' then failAt (.mismatch mismatch) rest else failAt (.mismatch mismatch) (c :: rest)

/-- Read a member from behind the opening quote of its key, and put its value into the draft. -/
def member (shape : RecordShape δ α) (draft : δ) (text : List Char) :
    Except Failure (δ × Shorter text) := do
  let (decoded, left) ← readString text
  let key := String.ofList decoded
  match shape.slots.find? (·.name == key) with
  | some slot =>
    if slot.isSet draft then failInside (.duplicateField key) left
    else
      let behind ← Reader.colon left
      let (update, last) ← slot.read behind
      return (update draft, left.trans (behind.trans last))
  | none =>
    if shape.isClosed then failInside (.unknownField key (shape.slots.map (·.name))) left
    else
      let behind ← Reader.colon left
      let last ← skipValue behind
      return (draft, left.trans (behind.trans last))

/-- Read what follows a member. -/
def members (shape : RecordShape δ α) (draft : δ) (text : List Char) :
    Except Failure (α × Shorter text) :=
  match next text with
  | .done => failAt .endInObject []
  | .char c rest =>
    if c = '\x7d' then do return (← shape.close draft rest, rest)
    else if c = ',' then
      match next rest with
      | .done => failAt .endInValue []
      | .char d inside =>
        if d = '"' then do
          let (longer, behind) ← shape.member draft inside
          let left := rest.trans (inside.trans behind)
          let (record, last) ← shape.members longer left
          return (record, left.trans last)
        else if d = '\x7d' then failBehind .trailingComma (d :: inside)
        else failBehind .keyNotString (d :: inside)
    else failBehind .expectedObjectCommaOrEnd (c :: rest)
termination_by text.length
decreasing_by exact (rest.trans (inside.trans behind)).property

/-- Read what follows the opening brace. -/
def firstMember (shape : RecordShape δ α) (text : List Char) :
    Except Failure (α × Shorter text) :=
  match next text with
  | .done => failAt .endInObject []
  | .char c rest =>
    if c = '\x7d' then do return (← shape.close shape.blank rest, rest)
    else if c = '"' then do
      let (draft, left) ← shape.member shape.blank rest
      let (record, last) ← shape.members draft left
      return (record, rest.trans (left.trans last))
    else failBehind .keyNotString (c :: rest)

/-- Read the closing bracket behind the last field. -/
def closeArray (text : List Char) : Except Failure (Shorter text) :=
  match next text with
  | .done => failAt .endInArray []
  | .char c rest =>
    if c = ']' then .ok rest
    else if c = ',' then
      match next rest with
      | .done => failAt .trailingCharacters []
      | .char d behind =>
        if d = ']' then failBehind .trailingComma (d :: behind)
        else failBehind .trailingCharacters (d :: behind)
    else failBehind .trailingCharacters (c :: rest)

/-- End an array in front of some fields, the first of which is field number `index`. Only optional
fields may be left out. -/
def endEarly (shape : RecordShape δ α) (draft : δ) (index : Nat) (slots : List (Slot δ))
    (rest : List Char) : Except Failure α :=
  match slots.findIdx? fun slot => !slot.isOptional with
  | some place => failAt (.mismatch (.tooShort (index + place) shape.expectedLength)) rest
  | none => shape.close draft rest

/-- Read the values of some fields, the first of which is field number `index`. -/
def elements (shape : RecordShape δ α) (draft : δ) (index : Nat) :
    List (Slot δ) → (text : List Char) → Except Failure (α × Shorter text)
  | [], text => do
    let left ← closeArray text
    let record ← shape.close draft left
    return (record, left)
  | slot :: slots, text =>
    match next text with
    | .done => failAt .endInArray []
    | .char c rest =>
      if c = ']' then do return (← shape.endEarly draft index (slot :: slots) rest, rest)
      else if index = 0 then do
        let (update, left) ← slot.read text
        let (record, last) ← shape.elements (update draft) 1 slots left
        return (record, left.trans last)
      else if c = ',' then
        match next rest with
        | .done => failAt .endInValue []
        | .char d behind =>
          if d = ']' then failBehind .trailingComma (d :: behind)
          else do
            let (update, left) ← slot.read rest
            let (record, last) ← shape.elements (update draft) (index + 1) slots left
            return (record, rest.trans (left.trans last))
      else failBehind .expectedArrayCommaOrEnd (c :: rest)

/-- Reads a record. -/
def reader (shape : RecordShape δ α) : Reader α := fun text =>
  match next text with
  | .done => failAt .endInValue []
  | .char c rest =>
    if c = '[' then do
      let (record, left) ← shape.elements shape.blank 0 shape.slots rest
      return (record, rest.trans left)
    else if c = '\x7b' then do
      let (record, left) ← shape.firstMember rest
      return (record, rest.trans left)
    else refuse shape.expected c rest

end RecordShape

end ScanSchema.Json
