import ScanSchema.Diagnostic.Basic
import ScanSchema.Diagnostic.Marking
import ScanSchema.Misuse

/-!
# Excerpts

An excerpt shows a diagnostic in its source: the message, the place, the marked lines of the span
with their numbers, and the hints. A span on one line gets carets below it; a span over several
lines gets a rule at their left that joins its two ends. Both ends have to lie between characters of
the source: an excerpt of a span that ends inside a character cannot be drawn.
-/

namespace ScanSchema

namespace Excerpt

/-- The columns that an excerpt takes at most, its gutter included. -/
def fullWidth : Nat := 140

/-- The bytes to underline in a source of `size` bytes. An empty span is widened by one byte, as
long as there is one. -/
def clamp (span : Span) (size : Nat) : Nat × Nat :=
  let start := min span.start size
  let stop := min span.stop size
  if start < stop then (start, stop) else (start, min (start + 1) size)

/-- The columns of an excerpt. -/
structure Frame where
  /-- The columns of a line number. -/
  digits : Nat
  /-- The column where code starts. -/
  codeColumn : Nat
  /-- The part of the code that is shown. -/
  window : Window
  deriving DecidableEq, Repr, Inhabited

namespace Frame

/-- The column of the rule beside the line numbers. -/
def barColumn (frame : Frame) : Nat := frame.digits + 1

/-- The column of the rule that joins the ends of a span over several lines. -/
def joinColumn (frame : Frame) : Nat := frame.digits + 3

/-- The frame for some marked lines. Line numbers are as wide as that of the last line that starts
in front of byte `stop`, and the rule that joins the ends of a longer span takes two columns. -/
def ofLines (lines : List Line) (stop : Nat) (label : List Char) (marked : List MarkedLine) :
    Frame :=
  let numbered := (lines.takeWhile fun line => line.start < stop).length
  let digits := (Nat.toDigits 10 (max numbered 1)).length
  let codeColumn := digits + (if marked.length = 1 then 3 else 5)
  ⟨digits, codeColumn, .fit (.ofLines label marked) (fullWidth - codeColumn)⟩

/-- A row without a line number. -/
def bar (frame : Frame) : Row := Row.empty.put frame.barColumn ['|'] .gutter

/-- A row with a line number, at the right of its columns. -/
def numbered (frame : Frame) (index : Nat) : Row :=
  let number := Nat.toDigits 10 (index + 1)
  let padded := List.replicate (frame.digits - number.length) ' ' ++ number
  (Row.empty.put 0 padded .gutter).put frame.barColumn ['|'] .gutter

/-- What is shown of a line. -/
def view (frame : Frame) (line : Line) : Window.View := frame.window.view (Text.shown line.text)

/-- The row of a line. -/
def code (frame : Frame) (index : Nat) (line : Line) : Row :=
  (frame.numbered index).overlay frame.codeColumn (frame.view line).cells

/-- A row with the rule that joins the ends of a span. -/
def join (frame : Frame) (row : Row) : Row := row.put frame.joinColumn ['|'] .mark

/-- A row with a line from the joining rule up to a column, and a caret there. -/
def reach (frame : Frame) (row : Row) (column : Nat) : Row :=
  let start := frame.joinColumn + 1
  (row.put start (List.replicate (column - start) '_') .mark).put column ['^'] .mark

/-- The rows of a marked line. If there is only blank space in front of the start of a span, the
joining rule starts in the row of the line, else in a row below. A mark that is more than twice as
wide as there is room loses its middle. -/
def rows (frame : Frame) (label : List Char) (marked : MarkedLine) : List Row :=
  let code := frame.code marked.index marked.line
  let below := fun column => frame.codeColumn + column - (frame.view marked.line).shift
  match marked.mark with
  | .passing => [frame.join code]
  | .opening start =>
    if ((Text.shown marked.line.text).take start).all Text.isBlank then
      [code.put frame.joinColumn ['/'] .mark]
    else
      [code, frame.reach (frame.bar.put frame.joinColumn [' '] .mark) (below start)]
  | .closing stop =>
    let labelled := frame.bar.put (below (if stop = 0 then 2 else stop + 1)) label .mark
    [frame.join code, frame.join (frame.reach labelled (below (stop - 1)))]
  | .within start stop =>
    let labelled := frame.bar.put (below (stop + 1)) label .mark
    let marks := labelled.put (below start) (List.replicate (stop - start) '^') .mark
    let room := frame.window.room
    if 2 * room < stop - start then
      [code, marks].map fun row => row.elide (start + room / 3) (stop - room / 3)
    else [code, marks]

/-- The rows between two marked lines: the line between them if there is just one, dots if there are
more. -/
def gap (frame : Frame) (lines : List Line) (current next : MarkedLine) : List Row :=
  if next.index ≤ current.index + 1 then []
  else if next.index = current.index + 2 then
    lines[current.index + 1]?.toList.map fun line =>
      frame.join (frame.code (current.index + 1) line)
  else [frame.join Row.ellipsis]

/-- The rows of marked lines and of what is between them. -/
def body (frame : Frame) (lines : List Line) (label : List Char) : List MarkedLine → List Row
  | [] => []
  | [last] => frame.rows label last
  | current :: next :: rest =>
    frame.rows label current ++ frame.gap lines current next ++
      frame.body lines label (next :: rest)

end Frame

/-- The rows of a message: the level in front of its first line, and as many blanks in front of the
others. -/
def titleRows (message : String) : List Row :=
  let level := "error".toList
  let lines := (String.ofList (Text.shown message.toList)).splitOn "\n"
  let first := ": " ++ lines.headD ""
  (Row.ofText level .mark ++ Row.ofText first.toList .title) ::
    lines.tail.map fun line => Row.blanks (level.length + 2) ++ Row.ofText line.toList .title

/-- The row that names a place in a file. -/
def locationRow (frame : Frame) (path : String) (place : Place) : Row :=
  Row.empty.put frame.digits "--> ".toList .gutter ++
    Row.ofText s!"{path}:{place.index + 1}:{place.charNumber}".toList .plain

/-- The rows of an excerpt, without the hints. -/
def rows (source : String) (path : Option String) (diagnostic : Diagnostic) : List Row :=
  let lines := Line.ofText source
  let (first, last) := clamp diagnostic.span source.utf8ByteSize
  let start := Place.ofOffset lines first
  let stop := if first = last then start else Place.ofOffset lines last
  let label := diagnostic.kind.fallbackMessage.toList
  let marked := MarkedLine.ofSpan lines start stop
  let frame := Frame.ofLines lines last label marked
  titleRows diagnostic.message ++ path.toList.map (fun path => locationRow frame path start) ++
    frame.bar :: frame.body lines label marked

/-- What is wrong with the bytes to underline, if one of their ends is inside a character. The source
is cut at their end first, and then the line of their start is cut there. -/
def misuse? (source : String) (diagnostic : Diagnostic) : Option Misuse :=
  let (first, last) := clamp diagnostic.span source.utf8ByteSize
  let line := (Place.ofOffset (Line.ofText source) first).line.start
  match Text.splitChar? last source.toList, Text.splitChar? first source.toList with
  | some (start, c), _ => some (.insideCharacter last start c)
  | none, some (start, c) => some (.insideCharacter (first - line) (start - line) c)
  | none, none => none

/-- An excerpt, with a line end behind each of its lines. -/
def render (style : Style) (source : String) (path : Option String) (diagnostic : Diagnostic) :
    String :=
  let hints := diagnostic.hints.map fun hint => "  = help: " ++ hint
  "\n".intercalate ((rows source path diagnostic).map (Row.text style) ++ hints) ++ "\n"

end Excerpt

namespace Diagnostics

variable (diagnostics : Diagnostics) (style : Excerpt.Style) (source : String)
  (path : Option String)

/-- The excerpts of all diagnostics, with an empty line between any two. -/
def render : String :=
  "\n".intercalate (diagnostics.entries.map (Excerpt.render style source path))

/-- The excerpts of all diagnostics, if each of them can be drawn. -/
def excerpts : Except Misuse String :=
  match diagnostics.entries.findSome? (Excerpt.misuse? source) with
  | some misuse => .error misuse
  | none => .ok (diagnostics.render style source path)

end Diagnostics

end ScanSchema
