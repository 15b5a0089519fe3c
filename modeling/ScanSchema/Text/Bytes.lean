/-!
# Byte lengths

Places in a text are counted in bytes of its UTF-8 form, and a character takes one to four of them.
-/

namespace ScanSchema.Text

/-- The bytes that some characters take. -/
def byteLength : List Char → Nat
  | [] => 0
  | c :: rest => c.utf8Size + byteLength rest

/-- Texts are as long as their parts. -/
theorem byteLength_append (front back : List Char) :
    byteLength (front ++ back) = byteLength front + byteLength back := by
  induction front with
  | nil => simp [byteLength]
  | cons c front ih => rw [List.cons_append, byteLength, byteLength, ih, Nat.add_assoc]

/-- The character that the first `bytes` bytes of a text end inside of, and the byte at which it
begins. There is none if they end between two characters or behind the text. -/
def splitChar? : Nat → List Char → Option (Nat × Char)
  | _, [] => none
  | bytes, c :: rest =>
    if bytes = 0 then none
    else if bytes < c.utf8Size then some (0, c)
    else (splitChar? (bytes - c.utf8Size) rest).map fun (start, found) => (c.utf8Size + start, found)

/-- The bytes of a letter that is repeated. -/
theorem byteLength_replicate (c : Char) (length : Nat) :
    byteLength (List.replicate length c) = length * c.utf8Size := by
  induction length with
  | zero =>
    rw [Nat.zero_mul]
    rfl
  | succ length ih => rw [List.replicate_succ, byteLength, ih, Nat.succ_mul, Nat.add_comm]

/-- These are the bytes of the text that the characters make up. -/
theorem utf8ByteSize_ofList (chars : List Char) :
    (String.ofList chars).utf8ByteSize = byteLength chars := by
  induction chars with
  | nil => rfl
  | cons c rest ih =>
    rw [String.ofList_cons, String.utf8ByteSize_append, String.utf8ByteSize_singleton, ih,
      byteLength]

/-- The characters of a text take its bytes. -/
theorem byteLength_toList (text : String) : byteLength text.toList = text.utf8ByteSize := by
  rw [← utf8ByteSize_ofList, String.ofList_toList]

end ScanSchema.Text
