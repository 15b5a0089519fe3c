import ScanSchema.Json.Skip

/-!
# Readers

A reader takes one value of a known shape off the front of a text. It looks at the text once, from
left to right, so of several faults the one that comes first is reported. A well-formed value of
another kind is named in the report; arrays and objects are named without a look inside.
-/

namespace ScanSchema.Json

/-- Takes a value off the front of a text. -/
abbrev Reader (α : Type) := (text : List Char) → Except Failure (α × Shorter text)

/-- Find out which kind of value starts with the character `c`, and what is behind it. -/
def readFound (c : Char) (rest : List Char) : Except Failure (Found × List Char) :=
  if c = 'n' then do return (.null, ← readWord "ull".toList rest)
  else if c = 't' then do return (.bool true, ← readWord "rue".toList rest)
  else if c = 'f' then do return (.bool false, ← readWord "alse".toList rest)
  else if c = '-' || c.isDigit then do
    let (number, left) ← readNumber c rest
    match number with
    | .integer value => return (.integer value, left)
    | .real text => return (.real text, left)
  else if c = '"' then do
    let (decoded, left) ← readString rest
    return (.string (String.ofList decoded), left)
  else if c = '[' then .ok (.array, c :: rest)
  else if c = '\x7b' then .ok (.object, c :: rest)
  else failBehind .expectedValue (c :: rest)

/-- Report a value that starts with `c` where something else was expected. -/
def refuse {α : Type} (expected : String) (c : Char) (rest : List Char) : Except Failure α := do
  let (found, left) ← readFound c rest
  failAt (.mismatch (.wrongKind found expected)) left

namespace Reader

variable {α β : Type}

/-- Read a value and apply a function to it. -/
def map (f : α → β) (reader : Reader α) : Reader β := fun text => do
  let (value, left) ← reader text
  return (f value, left)

/-- Read a string. -/
def string : Reader String := fun text =>
  match next text with
  | .done => failAt .endInValue []
  | .char c rest =>
    if c = '"' then do
      let (decoded, left) ← readString rest
      return (String.ofList decoded, rest.trans left)
    else refuse "a string" c rest

/-- Read a truth value. -/
def bool : Reader Bool := fun text =>
  match next text with
  | .done => failAt .endInValue []
  | .char c rest =>
    if c = 't' then do return (true, rest.andMaybe (← readWord "rue".toList rest))
    else if c = 'f' then do return (false, rest.andMaybe (← readWord "alse".toList rest))
    else refuse "a boolean" c rest

/-- Read the null value. -/
def unit : Reader Unit := fun text =>
  match next text with
  | .done => failAt .endInValue []
  | .char c rest =>
    if c = 'n' then do return ((), rest.andMaybe (← readWord "ull".toList rest))
    else refuse "unit" c rest

/-- Read a value or null. -/
def nullable (reader : Reader α) : Reader (Option α) := fun text =>
  match next text with
  | .done => reader.map some text
  | .char c rest =>
    if c = 'n' then do return (none, rest.andMaybe (← readWord "ull".toList rest))
    else reader.map some text

/-- Read an integer of the type named `expected`; `ofInt?` refuses those outside its range. -/
def integer (expected : String) (ofInt? : Int → Option α) : Reader α := fun text =>
  match next text with
  | .done => failAt .endInValue []
  | .char c rest =>
    if c = '-' || c.isDigit then do
      let (number, left) ← readNumber c rest
      match number with
      | .real text => failAt (.mismatch (.wrongKind (.real text) expected)) left
      | .integer value =>
        match ofInt? value with
        | none => failAt (.mismatch (.outOfRange value expected)) left
        | some a => return (a, rest.andMaybe left)
    else refuse expected c rest

/-- Read an integer of 8 bits. -/
def uint8 : Reader UInt8 :=
  integer "u8" fun n => if 0 ≤ n ∧ n < 0x100 then some (UInt8.ofNat n.toNat) else none

/-- Read an integer of 16 bits. -/
def uint16 : Reader UInt16 :=
  integer "u16" fun n => if 0 ≤ n ∧ n < 0x10000 then some (UInt16.ofNat n.toNat) else none

/-- Read a signed integer of 32 bits. -/
def int32 : Reader Int32 :=
  integer "i32" fun n => if -0x80000000 ≤ n ∧ n < 0x80000000 then some (Int32.ofInt n) else none

/-- Read a count, an integer of 64 bits. -/
def count : Reader Nat :=
  integer "usize" fun n => if 0 ≤ n ∧ n < 0x10000000000000000 then some n.toNat else none

/-- Read what follows an element of an array. -/
def elements (reader : Reader α) (text : List Char) :
    Except Failure (List α × Shorter text) :=
  match next text with
  | .done => failAt .endInArray []
  | .char c rest =>
    if c = ']' then .ok ([], rest)
    else if c = ',' then
      match next rest with
      | .done => failAt .endInValue []
      | .char d behind =>
        if d = ']' then failBehind .trailingComma (d :: behind)
        else do
          let (first, value) ← reader rest
          let left := rest.trans value
          let (others, last) ← elements reader left
          return (first :: others, left.trans last)
    else failBehind .expectedArrayCommaOrEnd (c :: rest)
termination_by text.length
decreasing_by exact (rest.trans value).property

/-- Read an array. -/
def list (reader : Reader α) : Reader (List α) := fun text =>
  match next text with
  | .done => failAt .endInValue []
  | .char c rest =>
    if c = '[' then
      match next rest with
      | .done => failAt .endInArray []
      | .char d behind =>
        if d = ']' then .ok ([], rest.trans behind)
        else do
          let (first, left) ← reader rest
          let (others, last) ← elements reader left
          return (first :: others, rest.trans (left.trans last))
    else refuse "a sequence" c rest

/-- Find the meaning of a word that ends where `left` begins. -/
def meaning (words : List (String × α)) (word : List Char) (left : List Char) :
    Except Failure α :=
  match words.lookup (String.ofList word) with
  | some value => .ok value
  | none => failAt (.mismatch (.unknownWord (String.ofList word) (words.map (·.1)))) left

/-- Read a colon. -/
def colon (text : List Char) : Except Failure (Shorter text) :=
  match next text with
  | .done => failAt .endInObject []
  | .char c rest => if c = ':' then .ok rest else failBehind .expectedColon (c :: rest)

/-- Read a closing brace. -/
def brace (text : List Char) : Except Failure (Shorter text) :=
  match next text with
  | .done => failAt .endInObject []
  | .char c rest => if c = '\x7d' then .ok rest else failAt .expectedValue (c :: rest)

/-- Read one of some words: a string, or an object with the word for its key and a null value. -/
def word (words : List (String × α)) : Reader α := fun text =>
  match next text with
  | .done => failAt .endInValue []
  | .char c rest =>
    if c = '"' then do
      let (decoded, left) ← readString rest
      let value ← meaning words decoded left
      return (value, rest.trans left)
    else if c = '\x7b' then
      match next rest with
      | .done => failAt .endInValue []
      | .char d inside =>
        if d = '"' then do
          let (decoded, left) ← readString inside
          let value ← meaning words decoded left
          let behind ← colon left
          let (_, last) ← unit behind
          let final ← brace last
          return (value,
            rest.trans (inside.trans (left.trans (behind.trans (last.trans final)))))
        else refuse "variant identifier" d inside
    else failBehind .expectedValue (c :: rest)

end Reader

/-- Make sure that nothing but blanks is left of a text. -/
def expectEnd (text : List Char) : Except Failure Unit :=
  match next text with
  | .done => .ok ()
  | .char c rest => failBehind .trailingCharacters (c :: rest)

/-- Read a whole text with one reader. Nothing but blanks may follow the value. -/
def readDocument {α : Type} (reader : Reader α) (text : String) : Except LocatedFault α :=
  let result : Except Failure α := do
    let (value, left) ← reader text.toList
    expectEnd left
    return value
  result.mapError (·.locate text)

end ScanSchema.Json
