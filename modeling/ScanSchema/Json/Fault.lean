import ScanSchema.Text.Bytes
import ScanSchema.Text.Quoted

/-!
# Faults in JSON text

A text can end too early, break the rules of JSON, or be well formed and yet not have the shape that
the reader asked for. Each fault has a wording. A `Failure` is a fault together with the place where
it was found, counted from the end of the text, and `Position` is such a place as line and column.
-/

namespace ScanSchema.Json

/-- A value that was found where another kind of value was asked for. -/
inductive Found where
  /-- The null value. -/
  | null
  /-- A truth value. -/
  | bool (value : Bool)
  /-- An integer. -/
  | integer (value : Int)
  /-- A number with a fraction or an exponent, in its shortest written form. -/
  | real (text : String)
  /-- A string. -/
  | string (value : String)
  /-- An array. -/
  | array
  /-- An object. -/
  | object
  deriving DecidableEq, Repr

/-- The wording of what was found. -/
def Found.describe : Found → String
  | .null => "null"
  | .bool value => s!"boolean `{value}`"
  | .integer value => s!"integer `{value}`"
  | .real text => "floating point `" ++ text ++ "`"
  | .string value => "string " ++ Text.quoted value
  | .array => "sequence"
  | .object => "map"

/-- How a well-formed value can miss the shape that was asked for. -/
inductive Mismatch where
  /-- A required field of a record is not there. -/
  | missingField (name : String)
  /-- A field of a record is there twice. -/
  | duplicateField (name : String)
  /-- A field that the record does not have. -/
  | unknownField (name : String) (known : List String)
  /-- A word that is none of the known ones. -/
  | unknownWord (word : String) (known : List String)
  /-- A value of another kind. -/
  | wrongKind (found : Found) (expected : String)
  /-- An integer outside the range asked for. -/
  | outOfRange (value : Int) (expected : String)
  /-- A record written as an array that is too short. -/
  | tooShort (length : Nat) (expected : String)
  deriving DecidableEq, Repr

/-- A list of names, as the end of a message. -/
def oneOf : List String → String
  | [] => "there are no names"
  | [name] => "expected `" ++ name ++ "`"
  | [first, second] => "expected `" ++ first ++ "` or `" ++ second ++ "`"
  | names => "expected one of " ++ ", ".intercalate (names.map fun name => "`" ++ name ++ "`")

/-- The wording of a mismatch. -/
def Mismatch.message : Mismatch → String
  | .missingField name => "missing field `" ++ name ++ "`"
  | .duplicateField name => "duplicate field `" ++ name ++ "`"
  | .unknownField name known => "unknown field `" ++ name ++ "`, " ++ oneOf known
  | .unknownWord word known => "unknown variant `" ++ word ++ "`, " ++ oneOf known
  | .wrongKind found expected => "invalid type: " ++ found.describe ++ ", expected " ++ expected
  | .outOfRange value expected => s!"invalid value: integer `{value}`, expected " ++ expected
  | .tooShort length expected => s!"invalid length {length}, expected " ++ expected

/-- What can be wrong with a text. -/
inductive Fault where
  /-- The text ends inside an array. -/
  | endInArray
  /-- The text ends inside an object. -/
  | endInObject
  /-- The text ends inside a string. -/
  | endInString
  /-- The text ends where a value is due or inside one. -/
  | endInValue
  /-- A key without a colon behind it. -/
  | expectedColon
  /-- An element without a comma or bracket behind it. -/
  | expectedArrayCommaOrEnd
  /-- A member without a comma or brace behind it. -/
  | expectedObjectCommaOrEnd
  /-- A misspelt `true`, `false` or `null`. -/
  | expectedIdent
  /-- Something that does not start a value. -/
  | expectedValue
  /-- A backslash with something unknown behind it. -/
  | invalidEscape
  /-- A badly written number. -/
  | invalidNumber
  /-- A number that is too large. -/
  | numberOutOfRange
  /-- A raw control character in a string. -/
  | controlCharacter
  /-- A key that is not a string. -/
  | keyNotString
  /-- Half of a surrogate pair, or two halves that do not match. -/
  | loneSurrogate
  /-- The first half of a surrogate pair without an escape behind it. -/
  | endOfHexEscape
  /-- A comma before a closing bracket. -/
  | trailingComma
  /-- Something behind the end of the value. -/
  | trailingCharacters
  /-- A well-formed value of another shape. -/
  | mismatch (misfit : Mismatch)
  deriving DecidableEq, Repr

/-- The three classes of faults. -/
inductive FaultClass where
  /-- The text ended too early. -/
  | truncated
  /-- The text is not JSON. -/
  | malformed
  /-- The text is JSON of another shape. -/
  | misshapen
  deriving DecidableEq, Repr

namespace Fault

/-- The class of a fault. -/
def faultClass : Fault → FaultClass
  | .endInArray | .endInObject | .endInString | .endInValue => .truncated
  | .mismatch _ => .misshapen
  | _ => .malformed

/-- The wording of a fault. -/
def message : Fault → String
  | .endInArray => "EOF while parsing a list"
  | .endInObject => "EOF while parsing an object"
  | .endInString => "EOF while parsing a string"
  | .endInValue => "EOF while parsing a value"
  | .expectedColon => "expected `:`"
  | .expectedArrayCommaOrEnd => "expected `,` or `]`"
  | .expectedObjectCommaOrEnd => "expected `,` or `\x7d`"
  | .expectedIdent => "expected ident"
  | .expectedValue => "expected value"
  | .invalidEscape => "invalid escape"
  | .invalidNumber => "invalid number"
  | .numberOutOfRange => "number out of range"
  | .controlCharacter => "control character (\\u0000-\\u001F) found while parsing a string"
  | .keyNotString => "key must be a string"
  | .loneSurrogate => "lone leading surrogate in hex escape"
  | .endOfHexEscape => "unexpected end of hex escape"
  | .trailingComma => "trailing comma"
  | .trailingCharacters => "trailing characters"
  | .mismatch misfit => misfit.message

end Fault

/-- A fault and its place. -/
structure Failure where
  /-- What is wrong. -/
  fault : Fault
  /-- How many bytes of the text lie behind the place. -/
  left : Nat
  deriving DecidableEq, Repr

/-- A place in a text. -/
structure Position where
  /-- The line, counted from 1. -/
  line : Nat
  /-- The bytes before the place in its line. -/
  column : Nat
  deriving DecidableEq, Repr, Inhabited

/-- The place behind the first `count` bytes of a text. -/
def Position.ofByte : Nat → List Char → Position
  | count, text => go ⟨1, 0⟩ count text
where
  /-- Walk on from a position. A place inside a character counts the bytes of it that lie before. -/
  go (position : Position) (count : Nat) : List Char → Position
    | [] => position
    | c :: rest =>
      if count < c.utf8Size then { position with column := position.column + count }
      else if c = '\n' then go ⟨position.line + 1, 0⟩ (count - 1) rest
      else go { position with column := position.column + c.utf8Size } (count - c.utf8Size) rest

/-- A fault and its line and column. -/
structure LocatedFault where
  /-- What is wrong. -/
  fault : Fault
  /-- Where it was found. -/
  position : Position
  deriving DecidableEq, Repr

/-- The fault with the place where it was found in `text`. -/
def Failure.locate (failure : Failure) (text : String) : LocatedFault :=
  ⟨failure.fault, Position.ofByte (text.utf8ByteSize - failure.left) text.toList⟩

/-- The wording of a fault and its place. -/
def LocatedFault.message (located : LocatedFault) : String :=
  located.fault.message ++
    s!" at line {located.position.line} column {located.position.column}"

end ScanSchema.Json
