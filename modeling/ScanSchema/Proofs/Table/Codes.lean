import Mathlib.Algebra.Group.Int.Defs
import Mathlib.Algebra.Group.Nat.Defs
import ScanSchema.Proofs.Table.Acceptance

/-!
# Codes and outcomes

Every outcome has a number: states count up from zero, lexemes down from `-3`, and `-1` and `-2` are what
is left. Different outcomes have different numbers, and every whole number is that of an outcome. A code
is such a number in a signed word, so the outcomes with a code are those whose number lies in the range of
signed words. At its lower end stands a lexeme: the least code is that of lexeme `2 ^ 31 - 3`. Codes are
read and written with words alone, where a number changes its sign by a subtraction from `-3`; the
difference never leaves the range.
-/

namespace ScanSchema

namespace Outcome

variable {code : Int32} {outcome other : Outcome}

section Numbers

/-- The number of an outcome, which may lie out of the range of codes. -/
def number : Outcome → Int
  | .goto state => state
  | .reject => -1
  | .acceptEnd => -2
  | .accept lexeme => -3 - lexeme

/-- Whether an outcome has a code. Only for states and lexemes there is a bound. -/
def HasCode : Outcome → Prop
  | .goto state => state < 2 ^ 31
  | .accept lexeme => lexeme ≤ 2 ^ 31 - 3
  | .reject | .acceptEnd => True

/-- Outcomes are told apart by their numbers. -/
theorem number_injective (h : outcome.number = other.number) : outcome = other := by
  cases outcome <;> cases other <;> grind [number]

/-- An outcome has a code if its number is a signed word. -/
theorem hasCode_iff : outcome.HasCode ↔ -2 ^ 31 ≤ outcome.number ∧ outcome.number < 2 ^ 31 := by
  cases outcome with
  | goto state =>
    have hnonneg : (0 : Int) ≤ state := Int.natCast_nonneg state
    simp only [HasCode, number]
    omega
  | reject => exact iff_of_true trivial (by decide)
  | acceptEnd => exact iff_of_true trivial (by decide)
  | accept lexeme =>
    simp only [HasCode, number]
    omega

/-- Reading a code loses nothing. -/
theorem number_decode (code : Int32) : (decode code).number = code.toInt := by
  cases hout : decode code with
  | goto state => exact (decode_eq_goto_iff.mp hout).symm
  | reject => exact (decode_eq_reject_iff.mp hout).symm
  | acceptEnd => exact (decode_eq_acceptEnd_iff.mp hout).symm
  | accept lexeme => exact (decode_eq_accept_iff.mp hout).symm

/-- What a code stands for has a code. -/
theorem hasCode_decode (code : Int32) : (decode code).HasCode := by
  rw [hasCode_iff, number_decode]
  exact ⟨code.le_toInt, code.toInt_lt⟩

/-- The code of an outcome is its number as a word. -/
theorem encode_eq (outcome : Outcome) : encode outcome = Int32.ofInt outcome.number := by
  cases outcome <;> rfl

/-- The code of an outcome is its number, if that is in range. -/
theorem toInt_encode (h : outcome.HasCode) : (encode outcome).toInt = outcome.number := by
  obtain ⟨hlower, hupper⟩ := hasCode_iff.mp h
  rw [encode_eq, Int32.toInt_ofInt_of_le hlower hupper]

/-- Every code is that of its meaning. -/
theorem encode_decode (code : Int32) : encode (decode code) = code := by
  rw [encode_eq, number_decode, Int32.ofInt_toInt]

/-- An outcome with a code is the meaning of it. -/
theorem decode_encode (h : outcome.HasCode) : decode (encode outcome) = outcome := by
  have hnumber : (decode (encode outcome)).number = outcome.number := by
    rw [number_decode, toInt_encode h]
  exact number_injective hnumber

end Numbers

section Words

/-- The difference of two signed words, if it is one. -/
def subtract? (a b : Int32) : Option Int32 :=
  if a.toBitVec.ssubOverflow b.toBitVec then none else some (a - b)

/-- The meaning of a code, read with words alone. -/
def decodeWord? (code : Int32) : Option Outcome :=
  if 0 ≤ code then some (.goto code.toUInt32.toNat)
  else if code = -1 then some .reject
  else if code = -2 then some .acceptEnd
  else (subtract? (-3) code).map fun lexeme => .accept lexeme.toUInt32.toNat

/-- The code of an outcome, written with words alone. -/
def encodeWord? : Outcome → Option Int32
  | .goto state => some (UInt32.ofNat state).toInt32
  | .reject => some (-1)
  | .acceptEnd => some (-2)
  | .accept lexeme => subtract? (-3) (UInt32.ofNat lexeme).toInt32

/-- Subtraction does not fail if the difference is in range. -/
theorem subtract?_eq_some {a b : Int32} (hlower : -2 ^ 31 ≤ a.toInt - b.toInt)
    (hupper : a.toInt - b.toInt < 2 ^ 31) :
    subtract? a b = some (a - b) ∧ (a - b).toInt = a.toInt - b.toInt := by
  have hfits : ¬ a.toBitVec.ssubOverflow b.toBitVec = true := by
    simp only [BitVec.ssubOverflow, Int32.toInt_toBitVec, Bool.or_eq_true, decide_eq_true_iff]
    omega
  have hword : (a - b).toInt = a.toInt - b.toInt := by
    have hdifference := BitVec.toInt_sub_of_not_ssubOverflow hfits
    rwa [← Int32.toBitVec_sub, Int32.toInt_toBitVec, Int32.toInt_toBitVec,
      Int32.toInt_toBitVec] at hdifference
  exact ⟨if_neg hfits, hword⟩

/-- A word that is not negative is the same without its sign. -/
theorem toNat_toUInt32 (h : 0 ≤ code.toInt) : (code.toUInt32.toNat : Int) = code.toInt := by
  have hbits : code.toBitVec.toNat = code.toUInt32.toNat := code.toNat_toBitVec
  have hless : 2 * code.toBitVec.toNat < 2 ^ 32 := by
    have hsign := BitVec.toInt_eq_toNat_cond code.toBitVec
    rw [Int32.toInt_toBitVec] at hsign
    have hword := code.toBitVec.isLt
    split at hsign <;> omega
  rw [← hbits, ← Int32.toInt_toBitVec, BitVec.toInt_eq_toNat_of_lt hless]

/-- A small number is the same in a signed word. -/
theorem toInt_toInt32_ofNat {n : Nat} (h : n < 2 ^ 31) : (UInt32.ofNat n).toInt32.toInt = n := by
  have hword : (UInt32.ofNat n).toNat = n := UInt32.toNat_ofNat_of_lt (Nat.lt_trans h (by decide))
  have hless : 2 * (UInt32.ofNat n).toBitVec.toNat < 2 ^ 32 := by
    rw [UInt32.toNat_toBitVec, hword]
    omega
  have hsign := BitVec.toInt_eq_toNat_of_lt hless
  rw [UInt32.toNat_toBitVec, hword] at hsign
  exact hsign

/-- No code is too low to be taken from `-3`, and what is left is a number without a sign. -/
theorem decodeWord?_eq (code : Int32) : decodeWord? code = some (decode code) := by
  have hlower := code.le_toInt
  have hupper := code.toInt_lt
  by_cases hstate : 0 ≤ code.toInt
  · have hword : (0 : Int32) ≤ code := Int32.le_iff_toInt_le.mpr hstate
    have hnumber : code.toInt = (code.toUInt32.toNat : Int) := (toNat_toUInt32 hstate).symm
    rw [decodeWord?, if_pos hword, decode_eq_goto_iff.mpr hnumber]
  have hword : ¬ (0 : Int32) ≤ code := fun h => hstate (Int32.le_iff_toInt_le.mp h)
  rw [decodeWord?, if_neg hword]
  by_cases hreject : code.toInt = -1
  · have hcode : code = -1 := Int32.toInt_inj.mp hreject
    rw [if_pos hcode, decode_eq_reject_iff.mpr hreject]
  rw [if_neg fun h => hreject (congrArg Int32.toInt h)]
  by_cases hend : code.toInt = -2
  · have hcode : code = -2 := Int32.toInt_inj.mp hend
    rw [if_pos hcode, decode_eq_acceptEnd_iff.mpr hend]
  rw [if_neg fun h => hend (congrArg Int32.toInt h)]
  -- From here on codes are at most `-3`, and so the difference is not negative.
  have hthree : (-3 : Int32).toInt = -3 := rfl
  obtain ⟨hfits, hdifference⟩ := @subtract?_eq_some (-3) code (by omega) (by omega)
  have hlexeme := @toNat_toUInt32 (-3 - code) (by omega)
  have hnumber : code.toInt = -3 - ((-3 - code).toUInt32.toNat : Int) := by omega
  rw [hfits, Option.map_some, decode_eq_accept_iff.mpr hnumber]

/-- The code of an outcome in bounds is written with words in range. -/
theorem encodeWord?_eq (h : outcome.HasCode) : encodeWord? outcome = some (encode outcome) := by
  have hencoded := toInt_encode h
  cases outcome with
  | goto state =>
    have hword : (UInt32.ofNat state).toInt32.toInt = state := toInt_toInt32_ofNat h
    exact congrArg some (Int32.toInt_inj.mp (hword.trans hencoded.symm))
  | reject => rfl
  | acceptEnd => rfl
  | accept lexeme =>
    have hbound : lexeme ≤ 2 ^ 31 - 3 := h
    have hword := @toInt_toInt32_ofNat lexeme (by omega)
    have hthree : (-3 : Int32).toInt = -3 := rfl
    obtain ⟨hfits, hdifference⟩ :=
      @subtract?_eq_some (-3) (UInt32.ofNat lexeme).toInt32 (by omega) (by omega)
    rw [hthree, hword] at hdifference
    exact hfits.trans (congrArg some (Int32.toInt_inj.mp (hdifference.trans hencoded.symm)))

end Words

/-- Codes and the outcomes that have one correspond. Every code is read with words in range, what it stands
for has the number that the code is, and it is written as the same code. The outcomes whose state is below
`2 ^ 31` or whose lexeme is at most `2 ^ 31 - 3`, and those without either, are written with words in range
and read again; no other outcome is. -/
theorem codes_correspond :
    (∀ code : Int32, decodeWord? code = some (decode code) ∧ (decode code).HasCode ∧
      (decode code).number = code.toInt ∧ encode (decode code) = code) ∧
    ∀ outcome : Outcome, outcome.HasCode ↔ encodeWord? outcome = some (encode outcome) ∧
      (encode outcome).toInt = outcome.number ∧ decode (encode outcome) = outcome := by
  refine ⟨fun code => ⟨decodeWord?_eq code, hasCode_decode code, number_decode code,
    encode_decode code⟩, fun outcome => ⟨fun h => ?_, fun h => ?_⟩⟩
  · exact ⟨encodeWord?_eq h, toInt_encode h, decode_encode h⟩
  · obtain ⟨-, -, hsame⟩ := h
    rw [← hsame]
    exact hasCode_decode (encode outcome)

/-- The least code is that of the last lexeme with a code. -/
example : decode Int32.minValue = .accept (2 ^ 31 - 3) ∧
    encode (.accept (2 ^ 31 - 3)) = Int32.minValue := by decide

end Outcome

end ScanSchema
