import ScanSchema.Text.Width

/-!
# Text as it is shown

Source text and messages may hold characters that would upset the display: a tab has no fixed width,
a control may move the cursor, a joiner glues its neighbours together, and a mark of direction
turns the text around. Each of them is shown as something else that takes a known width.
-/

namespace ScanSchema.Text

/-- The code points that change the direction of writing. -/
def directionRanges : List (Nat × Nat) := [(0x202A, 0x202E), (0x2066, 0x2069)]

/-- How a character is shown: a tab as four blanks, a control as its picture, a joiner not at all,
and a mark of direction as an unknown character. Line feeds are left to the caller. -/
def shownAs (c : Char) : List Char :=
  if c = '\t' then [' ', ' ', ' ', ' ']
  else if c = '\n' then [c]
  else if c.toNat < 0x20 then [Char.ofNat (0x2400 + c.toNat)]
  else if c.toNat = 0x7F then [Char.ofNat 0x2421]
  else if c.toNat = 0x200D then []
  else if inRanges c.toNat directionRanges then [Char.ofNat 0xFFFD]
  else [c]

/-- How a text is shown. -/
def shown (text : List Char) : List Char := text.flatMap shownAs

/-- The columns that a text takes when it is shown. -/
def shownWidth (text : List Char) : Nat := width (shown text)

end ScanSchema.Text
