/-!
# Byte spans

A span names a stretch of a text by the byte offsets of its two ends. Offsets are 32-bit words, so
a longer offset is taken modulo `2 ^ 32` when a span is made from it.
-/

namespace ScanSchema

/-- A stretch of text: the offset of its first byte and of the first byte after it. -/
structure Span where
  /-- Offset of the first byte. -/
  start : Nat
  /-- Offset of the first byte after the stretch. -/
  stop : Nat
  /-- A span never runs backwards. -/
  start_le_stop : start ≤ stop := by omega
  deriving DecidableEq, Repr

namespace Span

/-- The span between two offsets, if they are in order. -/
def between? (start stop : Nat) : Option Span :=
  if h : start ≤ stop then some ⟨start, stop, h⟩ else none

/-- The number of offsets that a 32-bit word can hold. -/
def offsetLimit : Nat := 0x100000000

/-- The span between two offsets that are reduced to 32-bit words, if the words are in order. In a
text of `offsetLimit` bytes or more they can be the wrong way round. -/
def ofOffsets? (start stop : Nat) : Option Span :=
  between? (start % offsetLimit) (stop % offsetLimit)

/-- The span of `length` bytes at `offset`, both reduced to 32-bit words. This is meant for texts of
less than `offsetLimit` bytes. In a longer one the sum of the words need not be a word, and where spans
are kept in words such a span is refused; here its second end is just the sum. -/
def ofLength (offset length : Nat) : Span :=
  ⟨offset % offsetLimit, offset % offsetLimit + length % offsetLimit, Nat.le_add_right _ _⟩

/-- The empty span at the start of a text. -/
def zero : Span := ⟨0, 0, Nat.le_refl 0⟩

instance : Inhabited Span := ⟨zero⟩

/-- The bytes that a span covers. -/
def size (span : Span) : Nat := span.stop - span.start

variable {start stop offset length : Nat} {span : Span}

/-- A span is made between its own ends only. -/
theorem between?_eq_some_iff :
    between? start stop = some span ↔ span.start = start ∧ span.stop = stop := by
  obtain ⟨a, b, h⟩ := span
  unfold between?
  split
  · simp only [Option.some.injEq, Span.mk.injEq]
    exact ⟨fun ⟨ha, hb⟩ => ⟨ha.symm, hb.symm⟩, fun ⟨ha, hb⟩ => ⟨ha.symm, hb.symm⟩⟩
  · constructor
    · intro hnone
      simp at hnone
    · rintro ⟨ha, hb⟩
      simp only at ha hb
      omega

/-- Between offsets that are words there is just the span with these ends. -/
theorem ofOffsets?_eq_some_iff (h : start ≤ stop) (hstop : stop < offsetLimit) :
    ofOffsets? start stop = some span ↔ span.start = start ∧ span.stop = stop := by
  rw [ofOffsets?, Nat.mod_eq_of_lt (Nat.lt_of_le_of_lt h hstop), Nat.mod_eq_of_lt hstop,
    between?_eq_some_iff]

/-- There is no span between two offsets exactly if their words are the wrong way round. -/
theorem ofOffsets?_eq_none_iff :
    ofOffsets? start stop = none ↔ stop % offsetLimit < start % offsetLimit := by
  rw [ofOffsets?, between?]
  split <;> simp <;> omega

/-- Offsets in order with no span between them are not both words. -/
theorem offsetLimit_le_of_ofOffsets? (h : start ≤ stop) (hnone : ofOffsets? start stop = none) :
    offsetLimit ≤ stop := by
  refine Nat.le_of_not_lt fun hstop => ?_
  rw [(@ofOffsets?_eq_some_iff start stop ⟨start, stop, h⟩ h hstop).mpr ⟨rfl, rfl⟩] at hnone
  cases hnone

/-- The span covers exactly `length` bytes at `offset`, as long as these bytes lie below
`offsetLimit`. -/
theorem ofLength_of_lt (h : offset + length < offsetLimit) :
    (ofLength offset length).start = offset ∧ (ofLength offset length).stop = offset + length := by
  have hoffset : offset < offsetLimit := Nat.lt_of_le_of_lt (Nat.le_add_right _ _) h
  have hlength : length < offsetLimit := Nat.lt_of_le_of_lt (Nat.le_add_left _ _) h
  simp only [ofLength, Nat.mod_eq_of_lt hoffset, Nat.mod_eq_of_lt hlength, and_self]

end Span

end ScanSchema
