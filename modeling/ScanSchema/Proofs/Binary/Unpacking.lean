import Mathlib.Algebra.Group.Nat.Defs
import ScanSchema.Binary.Varint

/-!
# Unpacking undoes packing

A packed value comes back when it is taken off the front of any bytes, and exactly the bytes behind it
are left. Counts and lengths are packed as numbers of 64 bits, so this holds for values whose packed
form is shorter than `2 ^ 64` bytes. `Undoes` is this property of a packing and its unpacking; it
carries over from the elements of a list to the list, whose length is bounded by that of its packed
form since no element is packed into nothing.
-/

namespace ScanSchema.Binary

/-- An unpacking undoes a packing, whatever follows the packed value. -/
structure Undoes {α : Type} (unpack : Unpacker α) (pack : α → List UInt8) : Prop where
  /-- A packed value takes at least one byte. -/
  ne_nil : ∀ value, pack value ≠ []
  /-- The value comes back, and what followed it is left. -/
  unpack_pack : ∀ value rest, (pack value).length < 2 ^ 64 →
    unpack (pack value ++ rest) = .ok (value, rest)

/-- A number of seven bits is packed into one byte. -/
theorem packNat_of_lt {n : Nat} (h : n < 128) : packNat n = [UInt8.ofNat n] := by
  rw [packNat, if_pos h]

/-- A greater one is packed from its lowest seven bits up. -/
theorem packNat_of_le {n : Nat} (h : 128 ≤ n) :
    packNat n = UInt8.ofNat (n % 128 + 128) :: packNat (n / 128) := by
  rw [packNat, if_neg (by omega)]

/-- A number takes at least one byte. -/
theorem packNat_ne_nil (n : Nat) : packNat n ≠ [] := by
  rcases Nat.lt_or_ge n 128 with h | h
  · rw [packNat_of_lt h]
    exact List.cons_ne_nil _ _
  · rw [packNat_of_le h]
    exact List.cons_ne_nil _ _

/-- A number comes back if it is below the bound that the number of bytes and the last of them set. -/
theorem unpackNat_packNat {lastMax : Nat} (hlast : lastMax < 128) {bytes n : Nat}
    (h : n < 128 ^ bytes * (lastMax + 1)) (rest : List UInt8) :
    unpackNat lastMax (bytes + 1) (packNat n ++ rest) = .ok (n, rest) := by
  -- one byte of the number for each byte that may be used
  induction bytes generalizing n with
  | zero =>
    have hn : n ≤ lastMax := by omega
    have hbyte : (UInt8.ofNat n).toNat = n := by rw [UInt8.toNat_ofNat']; omega
    rw [packNat_of_lt (by omega), List.singleton_append, unpackNat, hbyte, if_pos (by omega),
      if_neg (by omega)]
  | succ bytes ih =>
    rcases Nat.lt_or_ge n 128 with hn | hn
    · have hbyte : (UInt8.ofNat n).toNat = n := by rw [UInt8.toNat_ofNat']; omega
      rw [packNat_of_lt hn, List.singleton_append, unpackNat, hbyte, if_pos hn,
        if_neg (fun hlast => Nat.succ_ne_zero bytes hlast.1)]
    · have hbyte : (UInt8.ofNat (n % 128 + 128)).toNat = n % 128 + 128 := by
        rw [UInt8.toNat_ofNat']
        omega
      have hhigh : n / 128 < 128 ^ bytes * (lastMax + 1) := by
        rw [Nat.div_lt_iff_lt_mul (by omega)]
        rwa [Nat.pow_succ, Nat.mul_right_comm] at h
      have hsum : n % 128 + 128 - 128 + 128 * (n / 128) = n := by omega
      rw [packNat_of_le hn, List.cons_append, unpackNat, hbyte, if_neg (by omega), ih hhigh]
      simp only [bind, Except.bind, pure, Except.pure, hsum]

/-- A number of 16 bits is unpacked again, whatever follows. -/
theorem unpack16_packNat {n : Nat} (h : n < 2 ^ 16) (rest : List UInt8) :
    unpack16 (packNat n ++ rest) = .ok (n, rest) :=
  unpackNat_packNat (by decide) (by simpa using h) rest

/-- A number of 32 bits is unpacked again, whatever follows. -/
theorem unpack32_packNat {n : Nat} (h : n < 2 ^ 32) (rest : List UInt8) :
    unpack32 (packNat n ++ rest) = .ok (n, rest) :=
  unpackNat_packNat (by decide) (by simpa using h) rest

/-- A number of 64 bits is unpacked again, whatever follows. -/
theorem unpack64_packNat {n : Nat} (h : n < 2 ^ 64) (rest : List UInt8) :
    unpack64 (packNat n ++ rest) = .ok (n, rest) :=
  unpackNat_packNat (by decide) (by simpa using h) rest

/-- A byte is its own packed form. -/
theorem undoes_byte : Undoes unpackByte fun byte => [byte] where
  ne_nil _ := List.cons_ne_nil _ _
  unpack_pack _ _ _ := rfl

section List

variable {α : Type} {unpack : Unpacker α} {pack : α → List UInt8}

/-- Elements that take a byte each or more are no more than the bytes they take. -/
theorem Undoes.length_le_flatMap (h : Undoes unpack pack) (values : List α) :
    values.length ≤ (values.flatMap pack).length := by
  induction values with
  | nil => exact Nat.zero_le _
  | cons value values ih =>
    have hpos := List.length_pos_iff.mpr (h.ne_nil value)
    rw [List.flatMap_cons, List.length_append, List.length_cons]
    omega

/-- A list has no more values than bytes in its packed form. -/
theorem Undoes.length_le_packList (h : Undoes unpack pack) (values : List α) :
    values.length ≤ (packList pack values).length := by
  rw [packList, List.length_append]
  exact Nat.le_add_left_of_le (h.length_le_flatMap values)

/-- A packed list is no shorter than the packed form of any of its elements. -/
theorem length_pack_le_packList (pack : α → List UInt8) {value : α} {values : List α}
    (hmem : value ∈ values) :
    (pack value).length ≤ (packList pack values).length := by
  obtain ⟨front, back, rfl⟩ := List.append_of_mem hmem
  simp only [packList, List.flatMap_append, List.flatMap_cons, List.length_append]
  omega

/-- Values that are packed one behind the other are unpacked again. -/
theorem Undoes.unpackMany_flatMap (h : Undoes unpack pack) (values : List α) (rest : List UInt8)
    (hlen : (values.flatMap pack).length < 2 ^ 64) :
    unpackMany unpack values.length (values.flatMap pack ++ rest) = .ok (values, rest) := by
  induction values with
  | nil => rfl
  | cons value values ih =>
    rw [List.flatMap_cons, List.length_append] at hlen
    rw [List.flatMap_cons, List.append_assoc, List.length_cons, unpackMany,
      h.unpack_pack value _ (by omega)]
    simp only [bind, Except.bind, pure, Except.pure, ih (by omega)]

/-- Lists come back if their elements do. -/
theorem Undoes.list (h : Undoes unpack pack) : Undoes (unpackList unpack) (packList pack) where
  ne_nil values := by simp [packList, packNat_ne_nil]
  unpack_pack values rest hlen := by
    have hcount : values.length < 2 ^ 64 := Nat.lt_of_le_of_lt (h.length_le_packList values) hlen
    rw [packList, List.length_append] at hlen
    rw [packList, List.append_assoc, unpackList, unpack64_packNat hcount]
    exact h.unpackMany_flatMap values rest (by omega)

end List

/-- The bytes of a text are those of this text and no other. -/
theorem fromUTF8?_bytes (text : String) :
    String.fromUTF8? ⟨text.toUTF8.data.toList.toArray⟩ = some text :=
  dif_pos text.isValidUTF8

/-- Texts come back. -/
theorem undoes_packText : Undoes unpackText packText where
  ne_nil text := by simp [packText, packNat_ne_nil]
  unpack_pack text rest hlen := by
    have hsize : text.toUTF8.data.toList.length = text.utf8ByteSize := rfl
    rw [packText, List.length_append, hsize] at hlen
    rw [packText, List.append_assoc, unpackText, unpack64_packNat (by omega)]
    have henough : ¬ (text.toUTF8.data.toList ++ rest).length < text.utf8ByteSize := by
      rw [List.length_append, hsize]
      omega
    simp only [bind, Except.bind, pure, Except.pure, if_neg henough, List.take_left' hsize,
      List.drop_left' hsize, fromUTF8?_bytes]

end ScanSchema.Binary
