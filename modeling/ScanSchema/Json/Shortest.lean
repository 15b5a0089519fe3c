/-!
# The shortest decimal of a binary fraction

A floating point number is written with the fewest decimal digits that read back as the same number,
and with those nearest to it when there are several. The search walks down the decimal grids, from
coarse to fine, and takes the first grid with a point between the number's neighbours. It computes
with whole numbers only: all quantities are multiples of one small unit.
-/

namespace ScanSchema.Json

/-- A positive floating point number `significand * 2 ^ exponent`. -/
structure BinaryFraction where
  /-- The binary digits. -/
  significand : Nat
  /-- The weight of the last of them. -/
  exponent : Int
  /-- Whether the next smaller number is only half as far away as the next larger one. -/
  closeBelow : Bool
  deriving DecidableEq, Repr

/-- A decimal `digits * 10 ^ exponent`. -/
structure Decimal where
  /-- The decimal digits, as a number. -/
  digits : Nat
  /-- The weight of the last of them. -/
  exponent : Int
  deriving DecidableEq, Repr, Inhabited

namespace BinaryFraction

/-- The bit in front of the 52 that a double stores of its digits. -/
def hiddenBit : Nat := 0x10000000000000

/-- The fraction of a double, by its bits; the sign bit is left out. -/
def ofBits (bits : UInt64) : BinaryFraction :=
  let mantissa := bits.toNat % hiddenBit
  let scale := bits.toNat / hiddenBit % 0x800
  if scale = 0 then ⟨mantissa, -1074, false⟩
  else ⟨hiddenBit + mantissa, Int.ofNat scale - 1075, mantissa == 0 && scale != 1⟩

/-- The grid point nearest to the fraction on the grid of step `10 ^ power`, an even one if two are
equally near, provided that it reads back as the fraction. -/
def onGrid? (fraction : BinaryFraction) (power : Int) : Option Decimal :=
  -- Four times the fraction and its bounds, over the unit `2 ^ min exponent 0 * 10 ^ min power 0`.
  let binary := Nat.pow 2 fraction.exponent.toNat * Nat.pow 10 (-power).toNat
  let step := 4 * Nat.pow 10 power.toNat * Nat.pow 2 (-fraction.exponent).toNat
  let value := 4 * fraction.significand * binary
  let low := value - (if fraction.closeBelow then 1 else 2) * binary
  let high := value + 2 * binary
  let reads := fun digits : Nat =>
    if fraction.significand % 2 = 0 then low ≤ digits * step ∧ digits * step ≤ high
    else low < digits * step ∧ digits * step < high
  let below := value / step
  let above := below + 1
  let downward := value - below * step
  let upward := above * step - value
  let (near, far) :=
    if downward < upward ∨ (downward = upward ∧ below % 2 = 0) then (below, above)
    else (above, below)
  if near ≠ 0 ∧ reads near then some ⟨near, power⟩
  else if far ≠ 0 ∧ reads far then some ⟨far, power⟩
  else none

/-- The powers of ten that a grid may have, from coarse to fine. -/
def gridPowers : List Int := (List.range 660).map fun n => 310 - Int.ofNat n

/-- The shortest decimal that reads back as the fraction. -/
def shortest (fraction : BinaryFraction) : Decimal :=
  (gridPowers.findSome? fraction.onGrid?).getD ⟨0, 0⟩

end BinaryFraction

namespace Decimal

/-- The written form of an exponent, always with its sign. -/
def writeExponent (exponent : Int) : List Char :=
  if exponent < 0 then (toString exponent).toList else '+' :: (toString exponent).toList

/-- Written with a point when the first digit is worth at most `10 ^ 15` and at least `10 ^ -5`,
and with an exponent otherwise. There is always a digit behind the point, or an exponent. -/
def write (decimal : Decimal) : List Char :=
  let digits := Nat.toDigits 10 decimal.digits
  let count : Int := digits.length
  let point := count + decimal.exponent
  if 0 ≤ decimal.exponent ∧ point ≤ 16 then
    digits ++ List.replicate decimal.exponent.toNat '0' ++ ['.', '0']
  else if 0 < point ∧ point ≤ 16 then
    digits.take point.toNat ++ '.' :: digits.drop point.toNat
  else if -5 < point ∧ point ≤ 0 then
    '0' :: '.' :: (List.replicate (-point).toNat '0' ++ digits)
  else
    let exponent := writeExponent (point - 1)
    match digits with
    | [digit] => digit :: 'e' :: exponent
    | first :: rest => first :: '.' :: (rest ++ 'e' :: exponent)
    | [] => exponent

end Decimal

/-- The written form of a finite double. -/
def writeReal (value : Float) : String :=
  let bits := value.toBits
  let sign := if bits.toNat / 0x8000000000000000 = 1 then "-" else ""
  let fraction := BinaryFraction.ofBits bits
  if fraction.significand = 0 then sign ++ "0.0"
  else sign ++ String.ofList fraction.shortest.write

end ScanSchema.Json
