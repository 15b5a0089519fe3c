import ScanSchema.Json.Fault

/-!
# Reading along a text

Readers take characters off the front of a text. What they leave is part of their answer, together
with the proof that it is shorter than the text they were given, so that reading on always ends.
-/

namespace ScanSchema.Json

/-- The rest of a text after at least one character was taken off. -/
abbrev Shorter (text : List Char) := { rest : List Char // rest.length < text.length }

/-- The rest of a text after some characters, or none, were taken off. -/
abbrev NoLonger (text : List Char) := { rest : List Char // rest.length ≤ text.length }

namespace NoLonger

variable {c : Char} {text rest : List Char}

/-- The text itself. -/
def refl (text : List Char) : NoLonger text := ⟨text, Nat.le_refl _⟩

/-- A rest of a rest. -/
def trans (rest : NoLonger text) (left : NoLonger rest.val) : NoLonger text :=
  ⟨left.val, Nat.le_trans left.property rest.property⟩

/-- A rest behind one more character. -/
def cons (left : NoLonger rest) : NoLonger (c :: rest) :=
  ⟨left.val, Nat.le_succ_of_le left.property⟩

/-- A rest behind one character. -/
def behind (left : NoLonger rest) : Shorter (c :: rest) :=
  ⟨left.val, Nat.lt_succ_of_le left.property⟩

end NoLonger

namespace Shorter

variable {c : Char} {text rest : List Char}

/-- A rest of a rest. -/
def trans (rest : Shorter text) (left : Shorter rest.val) : Shorter text :=
  ⟨left.val, Nat.lt_trans left.property rest.property⟩

/-- What is left of a rest by something that need not take characters off. -/
def andMaybe (rest : Shorter text) (left : NoLonger rest.val) : Shorter text :=
  ⟨left.val, Nat.lt_of_le_of_lt left.property rest.property⟩

/-- What is left by something that takes characters off behind something that need not. -/
def after (rest : NoLonger text) (left : Shorter rest.val) : Shorter text :=
  ⟨left.val, Nat.lt_of_lt_of_le left.property rest.property⟩

/-- A rest behind one more character. -/
def cons (left : Shorter rest) : Shorter (c :: rest) := ⟨left.val, Nat.lt_succ_of_lt left.property⟩

/-- Less than a text with its first character is no more than what is behind that character. -/
def behindFirst (left : Shorter (c :: rest)) : NoLonger rest :=
  ⟨left.val, Nat.le_of_lt_succ left.property⟩

/-- A shorter rest is no longer one. -/
def noLonger (left : Shorter text) : NoLonger text := ⟨left.val, Nat.le_of_lt left.property⟩

end Shorter

/-- Fail where `rest` begins. -/
def failAt {α : Type} (fault : Fault) (rest : List Char) : Except Failure α :=
  .error ⟨fault, Text.byteLength rest⟩

/-- Fail in front of `unread`, which itself stands in front of `rest`. -/
def failBefore {α : Type} (fault : Fault) (unread rest : List Char) : Except Failure α :=
  .error ⟨fault, Text.byteLength unread + Text.byteLength rest⟩

/-- Fail behind the first `bytes` bytes of `rest`, or at the end if there are fewer. -/
def failBehind {α : Type} (fault : Fault) (rest : List Char) (bytes : Nat := 1) :
    Except Failure α :=
  .error ⟨fault, Text.byteLength rest - bytes⟩

/-- Whether a character may stand between the parts of a JSON text. -/
def isBlank (c : Char) : Bool := c = ' ' || c = '\n' || c = '\t' || c = '\r'

/-- Leave out the blanks at the front. -/
def dropBlanks (text : List Char) : NoLonger text :=
  ⟨text.dropWhile isBlank, (List.dropWhile_sublist isBlank).length_le⟩

/-- What comes next in a text, blanks left out. -/
inductive Next (text : List Char) where
  /-- Nothing does. -/
  | done
  /-- A character, and what is behind it. -/
  | char (c : Char) (rest : Shorter text)

/-- Look at the next character that is not blank. -/
def next (text : List Char) : Next text :=
  match dropBlanks text with
  | ⟨[], _⟩ => .done
  | ⟨c :: rest, h⟩ => .char c ⟨rest, h⟩

/-- Read the remaining characters of one of the words `true`, `false` and `null`. -/
def readWord (word : List Char) (text : List Char) : Except Failure (NoLonger text) :=
  match word, text with
  | [], text => .ok (.refl text)
  | _ :: _, [] => failAt .endInValue []
  | c :: word, d :: rest =>
    if c = d then do
      let left ← readWord word rest
      return left.cons
    else failBehind .expectedIdent (d :: rest)

/-- Whether a character is a hexadecimal digit. -/
def isHexDigit (c : Char) : Bool :=
  c.isDigit || ('a' ≤ c && c ≤ 'f') || ('A' ≤ c && c ≤ 'F')

/-- The value of a hexadecimal digit. -/
def hexValue (c : Char) : Nat :=
  if c.isDigit then c.toNat - '0'.toNat
  else if 'a' ≤ c then c.toNat - 'a'.toNat + 10
  else c.toNat - 'A'.toNat + 10

/-- Read the four hexadecimal digits of an escape. -/
def readHexEscape (text : List Char) : Except Failure (Nat × NoLonger text) :=
  match text with
  | a :: b :: c :: d :: rest =>
    if isHexDigit a && isHexDigit b && isHexDigit c && isHexDigit d then
      .ok (((hexValue a * 16 + hexValue b) * 16 + hexValue c) * 16 + hexValue d,
        (NoLonger.refl rest).cons.cons.cons.cons)
    else failBehind .invalidEscape (a :: b :: c :: d :: rest) 4
  | short =>
    if Text.byteLength short < 4 then failAt .endInString []
    else failBehind .invalidEscape short 4

/-- Whether a 16-bit code is the first half of a surrogate pair. -/
def isHighSurrogate (code : Nat) : Bool := 0xD800 ≤ code && code ≤ 0xDBFF

/-- Whether a 16-bit code is the second half of a surrogate pair. -/
def isLowSurrogate (code : Nat) : Bool := 0xDC00 ≤ code && code ≤ 0xDFFF

/-- Read the second half of a surrogate pair and answer with the character of the pair. -/
def readLowSurrogate (high : Nat) (text : List Char) : Except Failure (Char × NoLonger text) :=
  match text with
  | [] => failAt .endInString []
  | '\\' :: [] => failAt .endInString []
  | '\\' :: 'u' :: rest => do
    let (low, left) ← readHexEscape rest
    if isLowSurrogate low then
      return (Char.ofNat (0x10000 + (high - 0xD800) * 0x400 + (low - 0xDC00)), left.cons.cons)
    else failAt .loneSurrogate left
  | '\\' :: rest => failBehind .endOfHexEscape rest
  | rest => failBehind .endOfHexEscape rest

/-- Read what follows the `\u` of an escape. -/
def readUnicodeEscape (text : List Char) : Except Failure (Char × NoLonger text) := do
  let (code, left) ← readHexEscape text
  if isLowSurrogate code then failAt .loneSurrogate left
  else if isHighSurrogate code then
    let (c, rest) ← readLowSurrogate code left
    return (c, left.trans rest)
  else return (Char.ofNat code, left)

/-- The character that an escape of one letter stands for. -/
def letterEscape? : Char → Option Char
  | '"' => some '"'
  | '\\' => some '\\'
  | '/' => some '/'
  | 'b' => some '\x08'
  | 'f' => some '\x0c'
  | 'n' => some '\n'
  | 'r' => some '\r'
  | 't' => some '\t'
  | _ => none

/-- Read the characters of a string up to its closing quote. -/
def readString (text : List Char) : Except Failure (List Char × Shorter text) :=
  match text with
  | [] => failAt .endInString []
  | '"' :: rest => .ok ([], (NoLonger.refl rest).behind)
  | '\\' :: [] => failAt .endInString []
  | '\\' :: 'u' :: rest => do
    let (c, left) ← readUnicodeEscape rest
    let (decoded, last) ← readString left
    return (c :: decoded, (Shorter.after left last).cons.cons)
  | '\\' :: letter :: rest =>
    match letterEscape? letter with
    | none => failBehind .invalidEscape (letter :: rest)
    | some c => do
      let (decoded, last) ← readString rest
      return (c :: decoded, last.cons.cons)
  | c :: rest =>
    if c.toNat < 0x20 then failBehind .controlCharacter (c :: rest)
    else do
      let (decoded, last) ← readString rest
      return (c :: decoded, last.cons)
termination_by text.length
decreasing_by
  · exact Nat.lt_succ_of_lt (Nat.lt_succ_of_le left.property)
  · exact Nat.lt_succ_of_lt (Nat.lt_succ_self _)
  · exact Nat.lt_succ_self _

/-- Pass over the characters of a string up to its closing quote. Escapes have to be well formed,
but the halves of surrogate pairs may stand alone. A control character is named by the place in
front of it, as it is not taken off. -/
def skipString (text : List Char) : Except Failure (Shorter text) :=
  match text with
  | [] => failAt .endInString []
  | '"' :: rest => .ok (NoLonger.refl rest).behind
  | '\\' :: [] => failAt .endInString []
  | '\\' :: 'u' :: rest => do
    let (_, left) ← readHexEscape rest
    let last ← skipString left
    return (Shorter.after left last).cons.cons
  | '\\' :: letter :: rest =>
    match letterEscape? letter with
    | none => failBehind .invalidEscape (letter :: rest)
    | some _ => do
      let last ← skipString rest
      return last.cons.cons
  | c :: rest =>
    if c.toNat < 0x20 then failAt .controlCharacter (c :: rest)
    else do
      let last ← skipString rest
      return last.cons
termination_by text.length
decreasing_by
  · exact Nat.lt_succ_of_lt (Nat.lt_succ_of_le left.property)
  · exact Nat.lt_succ_of_lt (Nat.lt_succ_self _)
  · exact Nat.lt_succ_self _

end ScanSchema.Json
