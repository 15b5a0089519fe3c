import Mathlib.Tactic.SplitIfs
import ScanSchema.Json.Basic
import ScanSchema.Json.Reader

/-!
# Strings can be read back

A reader takes a value off the front of a text and leaves the rest; `Reader.Takes` says so without
the proof that the rest is shorter. Each character of a string is written so that reading takes it
off again, be it as itself, as an escape of one letter or by its code, so a string of any characters
is read back.
-/

namespace ScanSchema.Json

/-- A reader takes a value off the front of a text and leaves `rest`. -/
def Reader.Takes {α : Type} (reader : Reader α) (text : List Char) (value : α)
    (rest : List Char) : Prop :=
  ∃ h, reader text = .ok (value, ⟨rest, h⟩)

/-- Blanks are left out in front of a character. -/
theorem next_append {blanks : List Char} (hblanks : ∀ b ∈ blanks, isBlank b = true) {c : Char}
    (hc : isBlank c = false) (rest : List Char) :
    ∃ h, next (blanks ++ c :: rest) = .char c ⟨rest, h⟩ := by
  have hdrop : (blanks ++ c :: rest).dropWhile isBlank = c :: rest := by
    rw [List.dropWhile_append_of_pos hblanks, List.dropWhile_cons_of_neg (by simp [hc])]
  unfold next
  split
  next hleft =>
    have hnil : c :: rest = [] := hdrop.symm.trans (congrArg Subtype.val hleft)
    cases hnil
  next found left hlt hleft =>
    have hcons : c :: rest = found :: left := hdrop.symm.trans (congrArg Subtype.val hleft)
    cases hcons
    exact ⟨hlt, rfl⟩

/-- A character that is not blank is what comes next. -/
theorem next_cons {c : Char} (hc : isBlank c = false) (rest : List Char) :
    ∃ h, next (c :: rest) = .char c ⟨rest, h⟩ :=
  next_append (fun _ h => absurd h List.not_mem_nil) hc rest

/-! ### Escapes -/

/-- A digit that is written can be read. -/
theorem isHexDigit_hexDigit (n : Nat) : isHexDigit (hexDigit n) = true := by
  have h : ∀ k < 16, isHexDigit (Nat.digitChar k) = true := by decide
  exact h _ (Nat.mod_lt n (by decide))

/-- It has the value of the last digit of its number. -/
theorem hexValue_hexDigit (n : Nat) : hexValue (hexDigit n) = n % 16 := by
  have h : ∀ k < 16, hexValue (Nat.digitChar k) = k := by decide
  exact h _ (Nat.mod_lt n (by decide))

/-- A code of two digits is read back. -/
theorem readHexEscape_hexDigits {code : Nat} (h : code < 0x100) (rest : List Char) :
    ∃ hle, readHexEscape ('0' :: '0' :: hexDigit (code / 16) :: hexDigit code :: rest) =
      .ok (code, ⟨rest, hle⟩) := by
  have hzero : isHexDigit '0' = true := by decide
  have hvalue : ((hexValue '0' * 16 + hexValue '0') * 16 + hexValue (hexDigit (code / 16))) * 16 +
      hexValue (hexDigit code) = code := by
    rw [hexValue_hexDigit, hexValue_hexDigit, show hexValue '0' = 0 from rfl]
    omega
  rw [readHexEscape, hzero, isHexDigit_hexDigit, isHexDigit_hexDigit, hvalue]
  exact ⟨_, rfl⟩

/-- A control character is read back from its code. -/
theorem readUnicodeEscape_control {c : Char} (h : c.toNat < 0x20) (rest : List Char) :
    ∃ hle, readUnicodeEscape ('0' :: '0' :: hexDigit (c.toNat / 16) :: hexDigit c.toNat :: rest) =
      .ok (c, ⟨rest, hle⟩) := by
  have hbyte : c.toNat < 0x100 := by omega
  obtain ⟨hle, hcode⟩ := readHexEscape_hexDigits hbyte rest
  have hlow : isLowSurrogate c.toNat = false := by
    simp only [isLowSurrogate, Bool.and_eq_false_iff, decide_eq_false_iff_not]
    omega
  have hhigh : isHighSurrogate c.toNat = false := by
    simp only [isHighSurrogate, Bool.and_eq_false_iff, decide_eq_false_iff_not]
    omega
  refine ⟨hle, ?_⟩
  simp only [readUnicodeEscape, hcode, bind, Except.bind, hlow, hhigh, Bool.false_eq_true, if_false,
    Char.ofNat_toNat]
  rfl

/-- The three ways in which a character stands inside a string. -/
theorem escapeChar_cases (c : Char) :
    (∃ letter, letterEscape? letter = some c ∧ escapeChar c = ['\\', letter]) ∨
      (c.toNat < 0x20 ∧
        escapeChar c = ['\\', 'u', '0', '0', hexDigit (c.toNat / 16), hexDigit c.toNat]) ∨
      (c ≠ '"' ∧ c ≠ '\\' ∧ ¬ c.toNat < 0x20 ∧ escapeChar c = [c]) := by
  unfold escapeChar
  split_ifs with hquote hbackslash h h h h h hcontrol
  · exact .inl ⟨'"', by rw [hquote]; rfl, rfl⟩
  · exact .inl ⟨'\\', by rw [hbackslash]; rfl, rfl⟩
  · exact .inl ⟨'b', by rw [h]; rfl, rfl⟩
  · exact .inl ⟨'f', by rw [h]; rfl, rfl⟩
  · exact .inl ⟨'n', by rw [h]; rfl, rfl⟩
  · exact .inl ⟨'r', by rw [h]; rfl, rfl⟩
  · exact .inl ⟨'t', by rw [h]; rfl, rfl⟩
  · exact .inr (.inl ⟨hcontrol, rfl⟩)
  · exact .inr (.inr ⟨hquote, hbackslash, hcontrol, rfl⟩)

section Reading

variable {text rest decoded : List Char} {c : Char}

/-- An escape of one letter is read as its character. -/
theorem takes_letterEscape {letter : Char} (hletter : letterEscape? letter = some c)
    (h : Reader.Takes readString text decoded rest) :
    Reader.Takes readString ('\\' :: letter :: text) (c :: decoded) rest := by
  obtain ⟨hlt, hread⟩ := h
  have hne : letter ≠ 'u' := by
    rintro rfl
    cases hletter
  refine ⟨Nat.lt_succ_of_lt (Nat.lt_succ_of_lt hlt), ?_⟩
  rw [readString]
  · simp only [hletter, hread, bind, Except.bind]
    rfl
  · exact hne

/-- A control that is written by its number is read as itself. -/
theorem takes_controlEscape (hc : c.toNat < 0x20) (h : Reader.Takes readString text decoded rest) :
    Reader.Takes readString
      ('\\' :: 'u' :: '0' :: '0' :: hexDigit (c.toNat / 16) :: hexDigit c.toNat :: text)
      (c :: decoded) rest := by
  obtain ⟨hlt, hread⟩ := h
  obtain ⟨hle, hcode⟩ := readUnicodeEscape_control hc text
  refine ⟨by simp only [List.length_cons]; omega, ?_⟩
  rw [readString]
  simp only [hcode, hread, bind, Except.bind]
  rfl

/-- A character that needs no escape is read as itself. -/
theorem takes_plainChar (hquote : c ≠ '"') (hbackslash : c ≠ '\\') (hc : ¬ c.toNat < 0x20)
    (h : Reader.Takes readString text decoded rest) :
    Reader.Takes readString (c :: text) (c :: decoded) rest := by
  obtain ⟨hlt, hread⟩ := h
  refine ⟨Nat.lt_succ_of_lt hlt, ?_⟩
  rw [readString]
  · rw [if_neg hc, hread]
    rfl
  · exact hquote
  · exact fun h _ => hbackslash h
  · exact fun _ h _ => hbackslash h
  · exact fun _ _ h _ => hbackslash h

/-- Reading takes a written character off the front of a string. -/
theorem takes_escapeChar (c : Char) (h : Reader.Takes readString text decoded rest) :
    Reader.Takes readString (escapeChar c ++ text) (c :: decoded) rest := by
  obtain ⟨letter, hletter, heq⟩ | ⟨hc, heq⟩ | ⟨hquote, hbackslash, hc, heq⟩ := escapeChar_cases c
  · rw [heq]
    exact takes_letterEscape hletter h
  · rw [heq]
    exact takes_controlEscape hc h
  · rw [heq]
    exact takes_plainChar hquote hbackslash hc h

/-- A string ends at the quote. -/
theorem takes_quote (rest : List Char) : Reader.Takes readString ('"' :: rest) [] rest :=
  ⟨Nat.lt_succ_self _, by rw [readString]; rfl⟩

/-- What was written of a string behind its opening quote is read back. -/
theorem takes_escapeChars (text rest : List Char) :
    Reader.Takes readString (text.flatMap escapeChar ++ '"' :: rest) text rest := by
  induction text with
  | nil => exact takes_quote rest
  | cons c text ih =>
    rw [List.flatMap_cons, List.append_assoc]
    exact takes_escapeChar c ih

end Reading

/-- A written string is found behind blanks, and read. -/
theorem read_writeString {blanks : List Char} (hblanks : ∀ b ∈ blanks, isBlank b = true)
    (text : String) (rest : List Char) :
    ∃ left, next (blanks ++ (writeString text ++ rest)) = .char '"' left ∧
      ∃ h, readString left = .ok (text.toList, ⟨rest, h⟩) := by
  obtain ⟨hlt, hnext⟩ := next_append hblanks (by decide : isBlank '"' = false)
    (text.toList.flatMap escapeChar ++ '"' :: rest)
  have hwritten : writeString text ++ rest =
      '"' :: (text.toList.flatMap escapeChar ++ '"' :: rest) := by
    rw [writeString, List.cons_append, List.append_assoc, List.singleton_append]
  rw [hwritten]
  exact ⟨_, hnext, takes_escapeChars text.toList rest⟩

end ScanSchema.Json
