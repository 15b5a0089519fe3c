import ScanSchema.Diagnostic.Window
import ScanSchema.Text.Line

/-!
# Marked lines

A span is shown by marks at the lines that it touches. A span within one line has one mark. A longer
one is opened in its first line and closed in its last, and of the lines between only some are
shown: those near its start as far as they have content, and the one in front of its end.
-/

namespace ScanSchema.Excerpt

/-- What is drawn at a line, by columns of the line. -/
inductive Mark where
  /-- A span that starts and stops in the line. -/
  | within (start stop : Nat)
  /-- The start of a span. -/
  | opening (start : Nat)
  /-- A span that goes on. -/
  | passing
  /-- The end of a span. -/
  | closing (stop : Nat)
  deriving DecidableEq, Repr, Inhabited

namespace Mark

/-- The first column of the mark. -/
def first : Mark → Nat
  | .within start _ => start
  | .opening start => start
  | .passing => 0
  | .closing stop => stop - 1

/-- The column behind the mark. -/
def last : Mark → Nat
  | .within _ stop => stop
  | .opening start => start + 1
  | .passing => 0
  | .closing stop => stop

/-- The column behind the label, or behind the mark if the label stands elsewhere. -/
def labelled (label : List Char) : Mark → Nat
  | .within _ stop => stop + Text.width label + 1
  | .closing stop => stop + Text.width label + 1
  | mark => mark.last

end Mark

/-- A line and what is drawn at it. -/
structure MarkedLine where
  /-- Number of the line, counted from 0. -/
  index : Nat
  /-- The line. -/
  line : Line
  /-- What is drawn. -/
  mark : Mark
  deriving DecidableEq, Repr, Inhabited

namespace MarkedLine

/-- How many lines from the first one on may be shown before lines are left out. -/
def shownAtStart : Nat := 4

/-- The lines with numbers from `first` on, up to `stop`. -/
def passing (lines : List Line) (first stop : Nat) : List MarkedLine :=
  ((lines.take stop).drop first).zipIdx first |>.map fun (line, index) => ⟨index, line, .passing⟩

/-- The lines shown between the first and the last line of a span. Lines without content are left
out behind the last one at the start that has some, and so is such a line in front of the end. -/
def between (lines : List Line) (first last : Nat) : List MarkedLine :=
  let middle := min (first + shownAtStart) last
  let atStart := ((passing lines (first + 1) middle).reverse.dropWhile
    fun marked => !marked.line.hasContent).reverse
  let atEnd := (passing lines (max (middle + 1) (last - 1)) last).filter (·.line.hasContent)
  atStart ++ atEnd

/-- The marked lines of a span. Columns are those of the shown text. A span without a column of its
own is marked at the column where it starts, and one that takes in a line end at the column behind
the text. -/
def ofSpan (lines : List Line) (start stop : Place) : List MarkedLine :=
  if start.index = stop.index then
    [⟨start.index, start.line, .within start.column (max stop.column (start.column + 1))⟩]
  else
    let last := stop.column + (if stop.isBehindText then 1 else 0)
    ⟨start.index, start.line, .opening start.column⟩ ::
      (between lines start.index stop.index ++ [⟨stop.index, stop.line, .closing last⟩])

end MarkedLine

/-- What the window depends on for some marked lines. -/
def Extent.ofLines (label : List Char) (lines : List MarkedLine) : Extent :=
  let marks := lines.map (·.mark)
  let indents := (lines.filter fun marked => !marked.line.isBlank).map fun marked =>
    Line.indentation marked.line.text
  { indent := indents.min?.getD 0
    first := (marks.map Mark.first).min?.getD 0
    last := (marks.map Mark.last).max?.getD 0
    labelled := (marks.map (Mark.labelled label)).max?.getD 0
    longest := (lines.map fun marked => Text.byteLength marked.line.text).max?.getD 0 }

end ScanSchema.Excerpt
