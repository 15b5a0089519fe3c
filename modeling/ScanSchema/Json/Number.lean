import ScanSchema.Json.Shortest
import ScanSchema.Json.Text

/-!
# Numbers in JSON text

A number is first read as a `Numeral`, its digits as written. A numeral without fraction and
exponent is an integer as long as it fits 64 bits; every other one, and also `-0`, is a floating
point number. Its value is the leading digits that fit 64 bits, rounded, times or through a power of
ten. Of an exponent only as much is read as a signed 32-bit word can hold.
-/

namespace ScanSchema.Json

/-- The exponent of a number as written. -/
structure Exponent where
  /-- Whether a minus sign stands in front. -/
  negative : Bool
  /-- Its digits. -/
  digits : List Char
  deriving DecidableEq, Repr

/-- A number as written. -/
structure Numeral where
  /-- Whether a minus sign stands in front. -/
  negative : Bool
  /-- The digits in front of the point. -/
  whole : List Char
  /-- The digits behind the point, if there is one. -/
  fraction : Option (List Char)
  /-- The exponent, if there is one. -/
  exponent : Option Exponent
  deriving DecidableEq, Repr

/-- A number with one more digit behind its last. -/
def appendDigit (value : Nat) (c : Char) : Nat := value * 10 + (c.toNat - '0'.toNat)

/-- The value of some decimal digits. -/
def digitsValue (digits : List Char) : Nat := digits.foldl appendDigit 0

namespace Exponent

/-- The largest number that the digits of an exponent may make up. -/
def limit : Nat := 0x7FFFFFFF

/-- The power of ten that an exponent asks for. -/
def value (exponent : Exponent) : Int :=
  let size := Int.ofNat (digitsValue exponent.digits)
  if exponent.negative then -size else size

/-- What is left of some digits behind the one that takes the value beyond the limit; nothing if
none does. -/
def behindLimit? (value : Nat) : List Char → Option (List Char)
  | [] => none
  | c :: rest =>
    if limit < appendDigit value c then some rest else behindLimit? (appendDigit value c) rest

end Exponent

/-- Read as many digits as there are. -/
def readDigits (text : List Char) : List Char × NoLonger text :=
  (text.takeWhile Char.isDigit,
    ⟨text.dropWhile Char.isDigit, (List.dropWhile_sublist Char.isDigit).length_le⟩)

/-- Read the digits in front of the point; zero may not be followed by another digit. -/
def readWhole (atEnd : Fault) (text : List Char) : Except Failure (List Char × Shorter text) :=
  match text with
  | [] => failAt atEnd []
  | '0' :: rest =>
    if rest.head?.any Char.isDigit then failBehind .invalidNumber rest
    else .ok (['0'], (NoLonger.refl rest).behind)
  | c :: rest =>
    if c.isDigit then
      let (digits, left) := readDigits rest
      .ok (c :: digits, left.behind)
    else failBehind .invalidNumber (c :: rest)

/-- Read a point and the digits behind it, if there is a point. -/
def readFraction (atEnd : Fault) (text : List Char) :
    Except Failure (Option (List Char) × NoLonger text) :=
  match text with
  | '.' :: rest =>
    match readDigits rest with
    | ([], _) => if rest = [] then failAt atEnd [] else failBehind .invalidNumber rest
    | (digits, left) => .ok (some digits, left.cons)
  | text => .ok (none, .refl text)

/-- Read the sign of an exponent, if there is one. -/
def readSign (text : List Char) : Bool × NoLonger text :=
  match text with
  | '+' :: rest => (false, (NoLonger.refl rest).cons)
  | '-' :: rest => (true, (NoLonger.refl rest).cons)
  | text => (false, .refl text)

/-- Read an exponent, if there is one. -/
def readExponent (atEnd : Fault) (text : List Char) :
    Except Failure (Option Exponent × NoLonger text) :=
  match text with
  | [] => .ok (none, .refl [])
  | c :: rest =>
    if c = 'e' ∨ c = 'E' then
      let (negative, signed) := readSign rest
      match readDigits signed.val with
      | ([], _) =>
        if signed.val = [] then failAt atEnd [] else failBehind .invalidNumber signed
      | (digits, left) => .ok (some ⟨negative, digits⟩, (signed.trans left).cons)
    else .ok (none, .refl (c :: rest))

/-- Read a number without its sign. -/
def readUnsigned (atEnd : Fault) (negative : Bool) (text : List Char) :
    Except Failure (Numeral × Shorter text) := do
  let (whole, afterWhole) ← readWhole atEnd text
  let (fraction, afterFraction) ← readFraction atEnd afterWhole
  let (exponent, left) ← readExponent atEnd afterFraction
  return (⟨negative, whole, fraction, exponent⟩, afterWhole.andMaybe (afterFraction.trans left))

/-- Read a number that starts with the character `c`, a digit or a minus sign, in front of `rest`;
`atEnd` is the fault if the text ends inside it. -/
def readNumeral (atEnd : Fault) (c : Char) (rest : List Char) :
    Except Failure (Numeral × NoLonger rest) := do
  if c = '-' then
    let (numeral, left) ← readUnsigned atEnd true rest
    return (numeral, left.noLonger)
  else
    let (numeral, left) ← readUnsigned atEnd false (c :: rest)
    return (numeral, left.behindFirst)

/-- The value of a number. -/
inductive Number where
  /-- An integer that fits 64 bits, signed or unsigned. -/
  | integer (value : Int)
  /-- A floating point number, in its shortest written form. -/
  | real (text : String)
  deriving DecidableEq, Repr

namespace Numeral

/-- Append a digit to a number as long as the result fits 64 bits; answer with the number and the
digits that were not appended. -/
def appendDigits (value : Nat) : List Char → Nat × List Char
  | [] => (value, [])
  | c :: rest =>
    if appendDigit value c < 0x10000000000000000 then appendDigits (appendDigit value c) rest
    else (value, c :: rest)

/-- The leading digits that fit 64 bits, and the power of ten that they are to be multiplied by. -/
def scaled (numeral : Numeral) : Nat × Int :=
  let (head, overflow) := appendDigits 0 numeral.whole
  let fraction := numeral.fraction.getD []
  let (significand, ignored) := appendDigits head fraction
  let places := Int.ofNat overflow.length - Int.ofNat (fraction.length - ignored.length)
  (significand, places + (numeral.exponent.map Exponent.value).getD 0)

/-- The digits of the exponent that need not be read to see that the numeral is too large. They are
behind the digit that takes a positive exponent beyond its limit, unless the numeral is zero. -/
def unread? (numeral : Numeral) : Option (List Char) :=
  match numeral.exponent with
  | none => none
  | some exponent =>
    if exponent.negative || numeral.scaled.1 == 0 then none
    else Exponent.behindLimit? 0 exponent.digits

/-- Divide by ten to the power `places`, in steps that a double can hold. -/
def scaleDown (value : Float) (places : Nat) : Float :=
  if h : 308 < places then
    if value == 0.0 then value
    else scaleDown (value / Float.ofScientific 1 false 308) (places - 308)
  else value / Float.ofScientific 1 false places
termination_by places
decreasing_by omega

/-- The size of the numeral as a double; nothing if it is too large for one. -/
def toFloat? (numeral : Numeral) : Option Float :=
  let (significand, exponent) := numeral.scaled
  let value := (UInt64.ofNat significand).toFloat
  if exponent < 0 then some (scaleDown value (-exponent).toNat)
  else if 308 < exponent then if significand = 0 then some value else none
  else
    let product := value * Float.ofScientific 1 false exponent.toNat
    if product.isInf then none else some product

/-- The value of the numeral; nothing if it is too large. -/
def number? (numeral : Numeral) : Option Number :=
  let size := Int.ofNat (digitsValue numeral.whole)
  let value := if numeral.negative then -size else size
  let plain := numeral.fraction.isNone && numeral.exponent.isNone
  let negativeZero := numeral.negative && size == 0
  if plain && !negativeZero && decide (-0x8000000000000000 ≤ value) &&
      decide (value < 0x10000000000000000) then
    some (.integer value)
  else
    numeral.toFloat?.map fun float =>
      .real (writeReal (if numeral.negative then -float else float))

end Numeral

/-- Read a number that starts with the character `c`, and its value. One that is too large is named
by its end, or by the digit of its exponent that shows it. -/
def readNumber (c : Char) (rest : List Char) : Except Failure (Number × NoLonger rest) := do
  let (numeral, left) ← readNumeral .endInValue c rest
  match numeral.unread?, numeral.number? with
  | some unread, _ => failBefore .numberOutOfRange unread left
  | none, some number => return (number, left)
  | none, none => failAt .numberOutOfRange left

/-- Pass over a number that starts with the character `c`. -/
def skipNumber (c : Char) (rest : List Char) : Except Failure (NoLonger rest) := do
  let (_, left) ← readNumeral .invalidNumber c rest
  return left

end ScanSchema.Json
