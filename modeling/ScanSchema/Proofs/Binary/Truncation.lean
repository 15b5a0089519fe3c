import ScanSchema.Binary.Varint

/-!
# Packed data that was cut short

An unpacking reads along the bytes, so what it takes off the front does not depend on what stands
behind it. `Steady` is this property; it holds of all unpackings of numbers and texts, and carries
over to lists and to unpackings one after another. A value that fills its bytes can therefore not be
unpacked from a part of them: the bytes that were cut off would have to be left over.
-/

namespace ScanSchema.Binary

variable {α β : Type}

/-- An unpacking that succeeds takes the same value off the front when more bytes stand behind, and
leaves these as well. -/
def Steady (unpack : Unpacker α) : Prop :=
  ∀ ⦃bytes : List UInt8⦄ ⦃value : α⦄ ⦃rest : List UInt8⦄, unpack bytes = .ok (value, rest) →
    ∀ more, unpack (bytes ++ more) = .ok (value, rest ++ more)

/-- A value that fills some bytes is not unpacked from a part of them. -/
theorem Steady.error_of_prefix {unpack : Unpacker α} (h : Steady unpack) {front bytes : List UInt8}
    {value : α} (hfull : unpack bytes = .ok (value, [])) (hfront : front <+: bytes)
    (hne : front ≠ bytes) : ∃ fault, unpack front = .error fault := by
  cases hpart : unpack front with
  | error fault => exact ⟨fault, rfl⟩
  | ok found =>
    obtain ⟨part, rest⟩ := found
    obtain ⟨more, rfl⟩ := hfront
    have hmore := (h hpart more).symm.trans hfull
    have hnil : rest ++ more = [] := congrArg Prod.snd (Except.ok.inj hmore)
    rw [(List.append_eq_nil_iff.mp hnil).2, List.append_nil] at hne
    exact absurd rfl hne

/-- What reads nothing is steady. -/
theorem steady_pure (value : α) : Steady fun bytes => .ok (value, bytes) := by
  intro bytes found rest h more
  cases h
  rfl

/-- And so is what always fails. -/
theorem steady_error (fault : PayloadFault) : Steady (fun _ => .error fault : Unpacker α) := by
  intro bytes value rest h
  cases h

/-- Of two unpackings one after the other both have succeeded if the whole has. -/
theorem exists_of_bind_eq_ok {first : Except PayloadFault α} {next : α → Except PayloadFault β}
    {value : β} (h : first >>= next = .ok value) :
    ∃ part, first = .ok part ∧ next part = .ok value := by
  cases first with
  | error fault => cases h
  | ok part => exact ⟨part, rfl, h⟩

/-- Numbers end at their last byte, which is marked. -/
theorem steady_unpackNat (lastMax bytes : Nat) : Steady (unpackNat lastMax bytes) := by
  induction bytes with
  | zero => exact steady_error _
  | succ count ih =>
    intro bytes value rest h more
    cases bytes with
    | nil => cases h
    | cons byte bytes =>
      rw [unpackNat] at h
      rw [List.cons_append, unpackNat]
      split at h
      next hlast =>
        rw [if_pos hlast]
        split at h
        · cases h
        next hfits =>
          rw [if_neg hfits]
          cases h
          rfl
      next hgoes =>
        obtain ⟨⟨high, left⟩, hhigh, hvalue⟩ := exists_of_bind_eq_ok h
        cases hvalue
        rw [if_neg hgoes, ih hhigh more]
        rfl

/-- Numbers of 16 bits are unpacked steadily. -/
theorem steady_unpack16 : Steady unpack16 := steady_unpackNat 3 3

/-- Numbers of 32 bits are unpacked steadily. -/
theorem steady_unpack32 : Steady unpack32 := steady_unpackNat 15 5

/-- Numbers of 64 bits are unpacked steadily. -/
theorem steady_unpack64 : Steady unpack64 := steady_unpackNat 1 10

/-- A byte is unpacked steadily. -/
theorem steady_unpackByte : Steady unpackByte := by
  intro bytes value rest h more
  cases bytes with
  | nil => cases h
  | cons byte bytes =>
    cases h
    rfl

/-- A known number of values is unpacked steadily if each of them is. -/
theorem Steady.unpackMany {item : Unpacker α} (h : Steady item) (count : Nat) :
    Steady (unpackMany item count) := by
  induction count with
  | zero => exact steady_pure []
  | succ count ih =>
    intro bytes values rest hvalues more
    obtain ⟨⟨first, left⟩, hfirst, hothers⟩ := exists_of_bind_eq_ok hvalues
    obtain ⟨⟨others, last⟩, hothers, hvalue⟩ := exists_of_bind_eq_ok hothers
    cases hvalue
    rw [Binary.unpackMany, h hfirst more]
    dsimp only [bind, Except.bind]
    rw [ih hothers more]
    rfl

/-- A list says in front how many values it has, so it is unpacked steadily too. -/
theorem Steady.unpackList {item : Unpacker α} (h : Steady item) : Steady (unpackList item) := by
  intro bytes values rest hvalues more
  obtain ⟨⟨count, left⟩, hcount, hvalues⟩ := exists_of_bind_eq_ok hvalues
  rw [Binary.unpackList, steady_unpack64 hcount more]
  exact h.unpackMany count hvalues more

/-- Of a text all bytes have to be there, so more bytes behind do not matter. -/
theorem steady_unpackText : Steady unpackText := by
  intro bytes text rest h more
  obtain ⟨⟨size, left⟩, hsize, h⟩ := exists_of_bind_eq_ok h
  rw [unpackText, steady_unpack64 hsize more]
  simp only [bind, Except.bind] at h ⊢
  split at h
  · cases h
  next henough =>
    have hlonger : ¬ (left ++ more).length < size := by
      rw [List.length_append]
      omega
    have htake : (left ++ more).take size = left.take size :=
      List.take_append_of_le_length (by omega)
    have hdrop : (left ++ more).drop size = left.drop size ++ more :=
      List.drop_append_of_le_length (by omega)
    rw [if_neg hlonger, htake, hdrop]
    split at h
    · cases h
      rfl
    · cases h

end ScanSchema.Binary
