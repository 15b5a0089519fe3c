import ScanSchema.Diagnostic.Row
import ScanSchema.Text.Width

/-!
# Windows on long lines

An excerpt has a fixed width, and source lines may be longer. What is shown of them is the part
that lies in a window of columns: the start of the line if the marks and the label fit, else a part
around the marks, and in any case less of an indentation that is very deep. Dots show where a line
was cut.
-/

namespace ScanSchema.Excerpt

/-- What the window of an excerpt depends on, in columns of the shown lines. -/
structure Extent where
  /-- Blank space in front of every line. -/
  indent : Nat
  /-- The first column with a mark. -/
  first : Nat
  /-- The column behind the last mark. -/
  last : Nat
  /-- The column behind the last label. -/
  labelled : Nat
  /-- Length of the longest line, in bytes. -/
  longest : Nat
  deriving DecidableEq, Repr

/-- The columns of code that are shown. -/
structure Window where
  /-- The first column. -/
  left : Nat
  /-- The column behind the last, for a line that does not fit. -/
  right : Nat
  /-- The columns that a line may take. -/
  room : Nat
  deriving DecidableEq, Repr, Inhabited

namespace Window

/-- The columns kept free on each side of what has to be seen. -/
def padding : Nat := 6

/-- An indentation is shown in full up to this many columns, not counting the padding. -/
def deepIndent : Nat := 20

/-- The columns that are left of a deeper one, not counting the padding. -/
def keptIndent : Nat := 16

/-- The window of `room` columns from column `left` on. -/
def ofLeft (room left : Nat) : Window := ⟨left, left + room, room⟩

/-- The window for an excerpt with `room` columns for code. If cutting an indentation is not enough,
the first of these fits that can: all from the indentation on, the marks and labels in the middle,
the marks with two fifths of the free columns at their left, and the marks alone. -/
def fit (extent : Extent) (room : Nat) : Window :=
  let indent := min extent.indent extent.first - padding
  let first := extent.first - padding
  let last := extent.last + padding
  let labelled := extent.labelled + padding
  let left := if deepIndent < indent then indent - keptIndent else 0
  let right := max extent.longest left
  if right - left ≤ room then ⟨left, right, room⟩
  else if labelled - indent ≤ room then ofLeft room indent
  else if labelled - first ≤ room then ofLeft room (first - (room - (labelled - first)) / 2)
  else if last - first ≤ room then ofLeft room (first - (room - (last - first)) / 5 * 2)
  else ⟨first, last, room⟩

/-- Leave out characters as long as fewer than `columns` columns are gone, of which there are
`gone` so far; answer with the rest and the columns that are gone in the end. -/
def dropColumns (columns gone : Nat) : List Char → List Char × Nat
  | [] => ([], gone)
  | c :: rest =>
    if gone < columns then dropColumns columns (gone + Text.charWidth c) rest
    else (c :: rest, gone)

/-- The characters in front that fit into some columns. -/
def takeColumns (columns : Nat) : List Char → List Char
  | [] => []
  | c :: rest =>
    if Text.charWidth c ≤ columns then c :: takeColumns (columns - Text.charWidth c) rest else []

/-- The characters in front that it takes to fill some columns. -/
def fillColumns (columns : Nat) : List Char → List Char
  | [] => []
  | c :: rest =>
    if columns ≤ Text.charWidth c then [c] else c :: fillColumns (columns - Text.charWidth c) rest

/-- What is shown of a line. -/
structure View where
  /-- The cells. -/
  cells : Row
  /-- How many columns they moved to the left. -/
  shift : Nat
  deriving DecidableEq, Repr, Inhabited

/-- What the window shows of a line. Dots replace the first characters if the window does not start
at the first column, and the last ones if the line goes on behind it. -/
def view (window : Window) (text : List Char) : View :=
  let total := Text.width text
  let left := min window.left total
  let right := if total - window.left ≤ window.room then total else min total window.right
  let (rest, gone) := dropColumns left 0 text
  let seen := takeColumns (right - left) rest
  let isCut := window.left ≠ 0
  let front := if isCut then fillColumns Row.ellipsis.length seen else []
  let covered := Text.width front
  let inner := seen.drop front.length
  let back := fillColumns Row.ellipsis.length seen.reverse
  let cells := (if isCut then Row.ellipsis else .empty : Row).put covered inner .plain
  { cells :=
      if right < total then cells.overlay (covered + inner.length - back.length) Row.ellipsis
      else cells
    shift := max gone left - (covered - Row.ellipsis.length) }

end Window

end ScanSchema.Excerpt
