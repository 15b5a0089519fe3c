import ScanSchema.Json.Basic
import ScanSchema.Json.Number

/-!
# Integers can be read back

The decimal digits of a number are read up to their end, as long as nothing stands behind them that
goes on with a number. Only zero starts with the digit zero, so the digits make up a numeral, and a
numeral without fraction and exponent is an integer if it fits 64 bits.
-/

namespace ScanSchema.Json

/-- Nothing stands here that goes on with a number. -/
def EndsNumber (rest : List Char) : Prop :=
  ∀ c ∈ rest.head?, c.isDigit = false ∧ c ≠ '.' ∧ c ≠ 'e' ∧ c ≠ 'E'

/-- No digit stands where a number ends. -/
theorem EndsNumber.any_isDigit {rest : List Char} (h : EndsNumber rest) :
    rest.head?.any Char.isDigit = false := by
  cases rest with
  | nil => rfl
  | cons c rest => exact (h c rfl).1

/-- Digits are read up to their end. -/
theorem readDigits_append {digits rest : List Char} (hdigits : ∀ c ∈ digits, c.isDigit = true)
    (hrest : EndsNumber rest) : ∃ h, readDigits (digits ++ rest) = (digits, ⟨rest, h⟩) := by
  have hstop : rest.takeWhile Char.isDigit = [] ∧ rest.dropWhile Char.isDigit = rest := by
    cases rest with
    | nil => exact ⟨rfl, rfl⟩
    | cons c rest =>
      have hc : ¬ c.isDigit = true := by simp [(hrest c rfl).1]
      exact ⟨List.takeWhile_cons_of_neg hc, List.dropWhile_cons_of_neg hc⟩
  refine ⟨by simp, Prod.ext ?_ (Subtype.ext ?_)⟩
  · rw [readDigits, List.takeWhile_append_of_pos hdigits, hstop.1, List.append_nil]
  · exact (List.dropWhile_append_of_pos hdigits).trans hstop.2

/-- Nothing but zero starts with the digit zero. -/
theorem head?_toDigits_ne {n : Nat} (h : n ≠ 0) : (Nat.toDigits 10 n).head? ≠ some '0' := by
  induction n using Nat.strongRecOn with
  | ind n ih =>
    rw [Nat.toDigits_eq_if (by decide)]
    split
    next hlt =>
      have hne : ∀ k < 10, k ≠ 0 → Nat.digitChar k ≠ '0' := by decide
      exact fun hhead => hne n hlt h (Option.some.inj hhead)
    next hge =>
      rw [List.head?_append, Option.or_of_isSome (List.isSome_head?.mpr Nat.toDigits_ne_nil)]
      exact ih (n / 10) (by omega) (by omega)

/-- A number is written with digits. -/
theorem isDigit_of_toDigits_eq_cons {n : Nat} {c : Char} {digits : List Char}
    (h : Nat.toDigits 10 n = c :: digits) : c.isDigit = true :=
  Nat.isDigit_of_mem_toDigits (by decide) (by decide) (h ▸ List.mem_cons_self)

/-- The digits of a number have its value. -/
theorem digitsValue_toDigits (n : Nat) : digitsValue (Nat.toDigits 10 n) = n := by
  have hstep : appendDigit = fun value c => 10 * value + (c.toNat - '0'.toNat) := by
    funext value c
    rw [appendDigit, Nat.mul_comm]
  rw [digitsValue, hstep]
  exact Nat.ofDigitChars_toDigits (by decide) (by decide)

/-- The digits of a number are read as the part in front of a point. -/
theorem readWhole_toDigits (atEnd : Fault) (n : Nat) {rest : List Char} (hrest : EndsNumber rest) :
    ∃ h, readWhole atEnd (Nat.toDigits 10 n ++ rest) = .ok (Nat.toDigits 10 n, ⟨rest, h⟩) := by
  by_cases hn : n = 0
  · rw [hn]
    refine ⟨Nat.lt_succ_self _, ?_⟩
    change readWhole atEnd ('0' :: rest) = _
    rw [readWhole, hrest.any_isDigit]
    rfl
  · have hhead := head?_toDigits_ne hn
    have hdigits : ∀ c ∈ Nat.toDigits 10 n, c.isDigit = true :=
      fun c => Nat.isDigit_of_mem_toDigits (by decide) (by decide)
    cases hlist : Nat.toDigits 10 n with
    | nil => exact absurd hlist Nat.toDigits_ne_nil
    | cons c digits =>
      rw [hlist] at hhead hdigits
      obtain ⟨hle, hread⟩ := readDigits_append (fun d hd => hdigits d (List.mem_cons_of_mem c hd))
        hrest
      refine ⟨Nat.lt_succ_of_le hle, ?_⟩
      change readWhole atEnd (c :: (digits ++ rest)) = _
      rw [readWhole, if_pos (hdigits c List.mem_cons_self), hread]
      · rfl
      · exact fun hc => hhead (congrArg some hc)

/-- Where the number ends there is no fraction. -/
theorem readFraction_of_endsNumber (atEnd : Fault) {rest : List Char} (hrest : EndsNumber rest) :
    readFraction atEnd rest = .ok (none, .refl rest) := by
  rw [readFraction]
  rintro left rfl
  exact (hrest '.' rfl).2.1 rfl

/-- Nor is there an exponent. -/
theorem readExponent_of_endsNumber (atEnd : Fault) {rest : List Char} (hrest : EndsNumber rest) :
    readExponent atEnd rest = .ok (none, .refl rest) := by
  cases rest with
  | nil => rfl
  | cons c rest =>
    obtain ⟨-, -, he, hE⟩ := hrest c rfl
    rw [readExponent, if_neg (not_or.mpr ⟨he, hE⟩)]

/-- The digits of a number are read up to its end. -/
theorem readUnsigned_toDigits (atEnd : Fault) (negative : Bool) (n : Nat) {rest : List Char}
    (hrest : EndsNumber rest) :
    ∃ h, readUnsigned atEnd negative (Nat.toDigits 10 n ++ rest) =
      .ok (⟨negative, Nat.toDigits 10 n, none, none⟩, ⟨rest, h⟩) := by
  obtain ⟨h, hwhole⟩ := readWhole_toDigits atEnd n hrest
  refine ⟨h, ?_⟩
  simp only [readUnsigned, hwhole, bind, Except.bind, readFraction_of_endsNumber atEnd hrest,
    NoLonger.refl, readExponent_of_endsNumber atEnd hrest]
  rfl

/-- The numeral that an integer is written as. -/
def Numeral.ofInt : Int → Numeral
  | .ofNat n => ⟨false, Nat.toDigits 10 n, none, none⟩
  | .negSucc n => ⟨true, Nat.toDigits 10 (n + 1), none, none⟩

/-- An integer of 64 bits is the value of its numeral. -/
theorem Numeral.number?_ofInt {value : Int} (hlow : -0x8000000000000000 ≤ value)
    (hhigh : value < 0x10000000000000000) : (ofInt value).number? = some (.integer value) := by
  cases value with
  | ofNat n =>
    simp only [ofInt, number?, digitsValue_toDigits, Option.isNone_none, Bool.and_self,
      Bool.false_and, Bool.not_false, Bool.false_eq_true, if_false, decide_eq_true hlow,
      decide_eq_true hhigh, if_true]
  | negSucc n =>
    have hvalue : -Int.ofNat (n + 1) = Int.negSucc n := rfl
    have hnonzero : (Int.ofNat (n + 1) == 0) = false := rfl
    simp only [ofInt, number?, digitsValue_toDigits, Option.isNone_none, Bool.and_self,
      hnonzero, Bool.and_false, Bool.not_false, if_true, hvalue, decide_eq_true hlow,
      decide_eq_true hhigh]

/-- A written integer starts with a minus sign or a digit. -/
theorem exists_writeInteger_eq_cons (value : Int) :
    ∃ c digits, writeInteger value = c :: digits ∧ (c = '-' || c.isDigit) = true := by
  cases value with
  | ofNat n =>
    obtain ⟨c, digits, hlist⟩ := List.exists_cons_of_ne_nil (Nat.toDigits_ne_nil (n := n) (b := 10))
    exact ⟨c, digits, hlist, by rw [isDigit_of_toDigits_eq_cons hlist, Bool.or_true]⟩
  | negSucc n => exact ⟨'-', _, rfl, rfl⟩

section Written

variable {value : Int} {c : Char} {digits rest : List Char}

/-- The numeral of a written integer is read back. -/
theorem readNumeral_writeInteger (atEnd : Fault) (hwritten : writeInteger value = c :: digits)
    (hrest : EndsNumber rest) :
    ∃ h, readNumeral atEnd c (digits ++ rest) = .ok (Numeral.ofInt value, ⟨rest, h⟩) := by
  cases value with
  | ofNat n =>
    have hlist : Nat.toDigits 10 n = c :: digits := hwritten
    have hc : c ≠ '-' := by
      rintro rfl
      cases isDigit_of_toDigits_eq_cons hlist
    have hunsigned := readUnsigned_toDigits atEnd false n hrest
    rw [hlist, List.cons_append] at hunsigned
    obtain ⟨h, hread⟩ := hunsigned
    refine ⟨Nat.le_of_lt_succ h, ?_⟩
    rw [readNumeral, if_neg hc, hread, Numeral.ofInt, hlist]
    rfl
  | negSucc n =>
    obtain ⟨rfl, rfl⟩ : '-' = c ∧ Nat.toDigits 10 (n + 1) = digits := List.cons.inj hwritten
    obtain ⟨h, hread⟩ := readUnsigned_toDigits atEnd true (n + 1) hrest
    refine ⟨Nat.le_of_lt h, ?_⟩
    rw [readNumeral, if_pos rfl, hread]
    rfl

/-- A written integer of 64 bits is read back. -/
theorem readNumber_writeInteger (hlow : -0x8000000000000000 ≤ value)
    (hhigh : value < 0x10000000000000000) (hwritten : writeInteger value = c :: digits)
    (hrest : EndsNumber rest) :
    ∃ h, readNumber c (digits ++ rest) = .ok (.integer value, ⟨rest, h⟩) := by
  obtain ⟨h, hread⟩ := readNumeral_writeInteger .endInValue hwritten hrest
  have hunread : (Numeral.ofInt value).unread? = none := by cases value <;> rfl
  refine ⟨h, ?_⟩
  rw [readNumber, hread]
  simp only [bind, Except.bind, hunread, Numeral.number?_ofInt hlow hhigh]
  rfl

end Written

end ScanSchema.Json
