/-!
# Packed numbers

Numbers of a binary table are packed. Unsigned numbers are written in groups of seven bits, the
lowest group first, and every byte but the last has its high bit set. Signed numbers are folded onto
the unsigned ones first, so that those near zero are short. A number of a given width may take a
limited number of bytes, and the last of them may not say more than the width leaves room for.
-/

namespace ScanSchema.Binary

/-- What can be wrong with packed data. -/
inductive PayloadFault where
  /-- The data ends too early. -/
  | unexpectedEnd
  /-- A number does not end, or does not fit its width. -/
  | badNumber
  /-- A text is not UTF-8. -/
  | badText
  /-- A choice that does not exist. -/
  | badChoice
  deriving DecidableEq, Repr

/-- The wording of each fault. -/
def PayloadFault.message : PayloadFault → String
  | .unexpectedEnd => "Hit the end of buffer, expected more data"
  | .badNumber => "Found a varint that didn't terminate. Is the usize too big for this platform?"
  | .badText => "Tried to parse invalid utf-8"
  | .badChoice => "Serde Deserialization Error"

/-- Takes a value off the front of packed data. -/
abbrev Unpacker (α : Type) := List UInt8 → Except PayloadFault (α × List UInt8)

/-- Pack an unsigned number. -/
def packNat (n : Nat) : List UInt8 :=
  if n < 128 then [UInt8.ofNat n] else UInt8.ofNat (n % 128 + 128) :: packNat (n / 128)
termination_by n

/-- Unpack an unsigned number of at most `bytes` bytes, the last of which is at most `lastMax` if
all are used. -/
def unpackNat (lastMax : Nat) : (bytes : Nat) → Unpacker Nat
  | 0, _ => .error .badNumber
  | _ + 1, [] => .error .unexpectedEnd
  | bytes + 1, byte :: rest =>
    if byte.toNat < 128 then
      if bytes = 0 ∧ lastMax < byte.toNat then .error .badNumber else .ok (byte.toNat, rest)
    else do
      let (high, left) ← unpackNat lastMax bytes rest
      return (byte.toNat - 128 + 128 * high, left)

/-- Unpack a number of 16 bits. -/
def unpack16 : Unpacker Nat := unpackNat 3 3

/-- Unpack a number of 32 bits. -/
def unpack32 : Unpacker Nat := unpackNat 15 5

/-- Unpack a number of 64 bits. -/
def unpack64 : Unpacker Nat := unpackNat 1 10

/-- Fold a signed number onto the unsigned ones: `0, -1, 1, -2, 2, …`. -/
def zigzag : Int → Nat
  | .ofNat n => 2 * n
  | .negSucc n => 2 * n + 1

/-- Undo the folding. -/
def unzigzag (n : Nat) : Int :=
  if n % 2 = 0 then Int.ofNat (n / 2) else Int.negSucc (n / 2)

/-- Folding the signs into the lowest bit loses nothing. -/
theorem unzigzag_zigzag (n : Int) : unzigzag (zigzag n) = n := by
  cases n with
  | ofNat n => simp [zigzag, unzigzag]
  | negSucc n =>
    have hodd : (2 * n + 1) % 2 = 1 := by omega
    have hhalf : (2 * n + 1) / 2 = n := by omega
    simp [zigzag, unzigzag, hodd, hhalf]

/-- Unpack one byte. -/
def unpackByte : Unpacker UInt8
  | [] => .error .unexpectedEnd
  | byte :: rest => .ok (byte, rest)

/-- Unpack a given number of values. -/
def unpackMany {α : Type} (item : Unpacker α) : Nat → Unpacker (List α)
  | 0, bytes => .ok ([], bytes)
  | count + 1, bytes => do
    let (first, left) ← item bytes
    let (others, rest) ← unpackMany item count left
    return (first :: others, rest)

/-- Pack a list: its length and then its elements. -/
def packList {α : Type} (item : α → List UInt8) (values : List α) : List UInt8 :=
  packNat values.length ++ values.flatMap item

/-- Unpack a list. -/
def unpackList {α : Type} (item : Unpacker α) : Unpacker (List α) := fun bytes => do
  let (count, rest) ← unpack64 bytes
  unpackMany item count rest

/-- Pack a text: its length in bytes and its UTF-8 form. -/
def packText (text : String) : List UInt8 :=
  packNat text.utf8ByteSize ++ text.toUTF8.data.toList

/-- Unpack a text. -/
def unpackText : Unpacker String := fun bytes => do
  let (size, rest) ← unpack64 bytes
  if rest.length < size then throw .unexpectedEnd
  match String.fromUTF8? ⟨(rest.take size).toArray⟩ with
  | some text => return (text, rest.drop size)
  | none => throw .badText

end ScanSchema.Binary
