/-!
# JSON values and their written forms

JSON values with integers for numbers. A value can be written on one line without blanks, or laid
out with one element or member on each line and two blanks of indentation for each level.
-/

namespace ScanSchema

/-- A JSON value. Numbers are integers, and objects keep the order of their members. -/
inductive Json where
  /-- The null value. -/
  | null
  /-- A truth value. -/
  | bool (value : Bool)
  /-- An integer. -/
  | integer (value : Int)
  /-- A string. -/
  | string (value : String)
  /-- An array. -/
  | array (elements : List Json)
  /-- An object. -/
  | object (members : List (String × Json))
  deriving Repr, Inhabited

namespace Json

/-- The last hexadecimal digit of a number. -/
def hexDigit (n : Nat) : Char := Nat.digitChar (n % 16)

/-- How one character stands inside a string. -/
def escapeChar (c : Char) : List Char :=
  if c = '"' then ['\\', '"']
  else if c = '\\' then ['\\', '\\']
  else if c = '\x08' then ['\\', 'b']
  else if c = '\x0c' then ['\\', 'f']
  else if c = '\n' then ['\\', 'n']
  else if c = '\r' then ['\\', 'r']
  else if c = '\t' then ['\\', 't']
  else if c.toNat < 0x20 then ['\\', 'u', '0', '0', hexDigit (c.toNat / 16), hexDigit c.toNat]
  else [c]

/-- A string with its quotes. -/
def writeString (text : String) : List Char :=
  '"' :: (text.toList.flatMap escapeChar ++ ['"'])

/-- An integer in decimal. -/
def writeInteger : Int → List Char
  | .ofNat n => Nat.toDigits 10 n
  | .negSucc n => '-' :: Nat.toDigits 10 (n + 1)

/-- A line end and the indentation of a level. -/
def newline (level : Nat) : List Char := '\n' :: List.replicate (2 * level) ' '

mutual

/-- A value on one line, without blanks. -/
def writeCompact : Json → List Char
  | .null => "null".toList
  | .bool true => "true".toList
  | .bool false => "false".toList
  | .integer value => writeInteger value
  | .string value => writeString value
  | .array elements => '[' :: compactElements elements
  | .object members => '\x7b' :: compactMembers members

/-- The elements of an array and its closing bracket, on one line. -/
def compactElements : List Json → List Char
  | [] => [']']
  | [last] => writeCompact last ++ [']']
  | first :: rest => writeCompact first ++ ',' :: compactElements rest

/-- The members of an object and its closing brace, on one line. -/
def compactMembers : List (String × Json) → List Char
  | [] => ['\x7d']
  | [(key, last)] => writeString key ++ ':' :: (writeCompact last ++ ['\x7d'])
  | (key, first) :: rest =>
    writeString key ++ ':' :: (writeCompact first ++ ',' :: compactMembers rest)

end

mutual

/-- A value laid out on lines, at a level of indentation. -/
def writePretty (level : Nat) : Json → List Char
  | .null => "null".toList
  | .bool true => "true".toList
  | .bool false => "false".toList
  | .integer value => writeInteger value
  | .string value => writeString value
  | .array [] => ['[', ']']
  | .array elements => '[' :: prettyElements level elements
  | .object [] => ['\x7b', '\x7d']
  | .object members => '\x7b' :: prettyMembers level members

/-- The elements of an array on lines of their own, and its closing bracket. -/
def prettyElements (level : Nat) : List Json → List Char
  | [] => newline level ++ [']']
  | [last] => newline (level + 1) ++ writePretty (level + 1) last ++ newline level ++ [']']
  | first :: rest =>
    newline (level + 1) ++ writePretty (level + 1) first ++ ',' :: prettyElements level rest

/-- The members of an object on lines of their own, and its closing brace. -/
def prettyMembers (level : Nat) : List (String × Json) → List Char
  | [] => newline level ++ ['\x7d']
  | [(key, last)] =>
    newline (level + 1) ++ writeString key ++ ':' :: ' ' ::
      (writePretty (level + 1) last ++ newline level ++ ['\x7d'])
  | (key, first) :: rest =>
    newline (level + 1) ++ writeString key ++ ':' :: ' ' ::
      (writePretty (level + 1) first ++ ',' :: prettyMembers level rest)

end

/-- The text of a value on one line. -/
def compact (value : Json) : String := String.ofList (writeCompact value)

/-- The text of a value laid out on lines. -/
def pretty (value : Json) : String := String.ofList (writePretty 0 value)

end Json

end ScanSchema
