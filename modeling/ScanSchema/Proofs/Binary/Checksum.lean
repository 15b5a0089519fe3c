import ScanSchema.Binary.Checksum

/-!
# Checksums tell single bytes apart

Shifting a bit out of the register loses nothing: the divisor has its high bit set, so the high bit of
the new register is the bit that was shifted out. Taking a byte into the register is therefore
injective, both in the register and in the byte, and two texts that differ in one byte have different
checksums.
-/

namespace ScanSchema.Checksum

/-- Shifting a register by one bit halves its number. -/
theorem toNat_shiftRight_one (register : UInt32) : (register >>> 1).toNat = register.toNat / 2 := by
  rw [UInt32.toNat_shiftRight]
  exact Nat.shiftRight_eq_div_pow _ 1

/-- The lowest bit is set in the odd numbers. -/
theorem low_bit_iff (register : UInt32) : register &&& 1 = 1 ↔ register.toNat % 2 = 1 := by
  rw [← UInt32.toNat_inj, UInt32.toNat_and, ← Nat.and_one_is_mod]
  rfl

/-- The high bit of the new register is the bit that was shifted out. -/
theorem testBit_shift (register : UInt32) :
    (shift register).toNat.testBit 31 = decide (register &&& 1 = 1) := by
  have hlow : (register >>> 1).toNat.testBit 31 = false := by
    rw [toNat_shiftRight_one]
    exact Nat.testBit_lt_two_pow (by have := register.toNat_lt; omega)
  have hhigh : polynomial.toNat.testBit 31 = true := by decide
  by_cases hbit : register &&& 1 = 1
  · rw [shift, if_pos hbit, UInt32.toNat_xor, Nat.testBit_xor, hlow, hhigh, decide_eq_true hbit]
    rfl
  · rw [shift, if_neg hbit, hlow, decide_eq_false hbit]

/-- Shifting loses nothing: the bit that leaves the register decides on the highest one. -/
theorem shift_injective : Function.Injective shift := by
  intro first second h
  have hbit : first &&& 1 = 1 ↔ second &&& 1 = 1 :=
    decide_eq_decide.mp ((testBit_shift first).symm.trans (h ▸ testBit_shift second))
  have hhalf : first >>> 1 = second >>> 1 := by
    by_cases hodd : first &&& 1 = 1
    · rw [shift, shift, if_pos hodd, if_pos (hbit.mp hodd)] at h
      exact (UInt32.xor_left_inj _).mp h
    · rwa [shift, shift, if_neg hodd, if_neg (mt hbit.mpr hodd)] at h
  have hvalue := congrArg UInt32.toNat hhalf
  rw [toNat_shiftRight_one, toNat_shiftRight_one] at hvalue
  rw [low_bit_iff, low_bit_iff] at hbit
  exact UInt32.toNat_inj.mp (by omega)

/-- Nor do several shifts lose anything. -/
theorem shifts_injective (count : Nat) : Function.Injective (shifts count) := by
  induction count with
  | zero => exact fun _ _ h => h
  | succ count ih => exact fun _ _ h => shift_injective (ih h)

/-- Different registers stay different when a byte is taken into both. -/
theorem step_left_injective (byte : UInt8) : Function.Injective (step · byte) :=
  fun _ _ h => (UInt32.xor_left_inj _).mp (shifts_injective 8 h)

/-- Different bytes leave different registers. -/
theorem step_right_injective (register : UInt32) : Function.Injective (step register) :=
  fun _ _ h => UInt8.toUInt32_inj.mp ((UInt32.xor_right_inj _).mp (shifts_injective 8 h))

/-- Registers that differ still do so after the same bytes. -/
theorem foldl_step_injective (bytes : List UInt8) :
    Function.Injective fun register => bytes.foldl step register := by
  induction bytes with
  | nil => exact fun _ _ h => h
  | cons byte bytes ih => exact fun _ _ h => step_left_injective byte (ih h)

/-- The checksum changes when a single byte does. -/
theorem crc32_set_ne {bytes : List UInt8} {place : Nat} {byte : UInt8} (hplace : place < bytes.length)
    (hbyte : bytes[place] ≠ byte) : crc32 (bytes.set place byte) ≠ crc32 bytes := by
  intro h
  have hsplit : bytes = bytes.take place ++ bytes[place] :: bytes.drop (place + 1) := by
    rw [List.getElem_cons_drop, List.take_append_drop]
  have hset : bytes.set place byte = bytes.take place ++ byte :: bytes.drop (place + 1) := by
    rw [List.set_eq_take_append_cons_drop, if_pos hplace]
  have hfold := (UInt32.xor_left_inj _).mp h
  rw [hset, List.foldl_append, List.foldl_cons] at hfold
  conv at hfold => rhs; rw [hsplit]
  rw [List.foldl_append, List.foldl_cons] at hfold
  exact hbyte (step_right_injective _ (foldl_step_injective _ hfold)).symm

end ScanSchema.Checksum
