/-!
# Rows of cells

An excerpt is drawn into rows of cells. Every cell holds a character and the ink it is drawn with;
pieces of text are laid over a row at any column, one over the other. A finished row is shown as
plain text, or with an escape sequence wherever the ink changes.
-/

namespace ScanSchema.Excerpt

/-- Whether an excerpt is colored. -/
inductive Style where
  /-- Text alone. -/
  | plain
  /-- Text with escape sequences for a terminal. -/
  | colored
  deriving DecidableEq, Repr, Inhabited

/-- What a cell is drawn with. -/
inductive Ink where
  /-- The text of a source, and everything without a look of its own. -/
  | plain
  /-- The text of the message. -/
  | title
  /-- Line numbers, the rule beside them, and dots for what is left out. -/
  | gutter
  /-- What marks the span, and the level of the message. -/
  | mark
  deriving DecidableEq, Repr, Inhabited

namespace Ink

/-- The escape sequence of a code. -/
def escape (code : String) : List Char := ('\x1b' :: '[' :: code.toList) ++ ['m']

/-- What switches a terminal to the ink. -/
def on : Ink → List Char
  | .plain => []
  | .title => escape "1"
  | .gutter => escape "1" ++ escape "94"
  | .mark => escape "1" ++ escape "91"

/-- What switches a terminal back from the ink. -/
def off : Ink → List Char
  | .plain => []
  | _ => escape "0"

end Ink

/-- A character on a row. -/
structure Cell where
  /-- The character. -/
  char : Char
  /-- What it is drawn with. -/
  ink : Ink
  deriving DecidableEq, Repr, Inhabited

/-- Cells beside each other. -/
abbrev Row := List Cell

namespace Row

/-- A row without cells. -/
def empty : Row := []

/-- A text in one ink. -/
def ofText (text : List Char) (ink : Ink) : Row := text.map fun c => ⟨c, ink⟩

/-- Some blanks. -/
def blanks (count : Nat) : Row := List.replicate count ⟨' ', .plain⟩

/-- The dots that stand for what is left out. -/
def ellipsis : Row := ofText ['.', '.', '.'] .gutter

/-- Lay cells over a row from a column on. A row that does not reach so far is filled up with
blanks first; without cells nothing changes. -/
def overlay (row : Row) (column : Nat) (cells : Row) : Row :=
  if cells.isEmpty then row
  else row.take column ++ blanks (column - row.length) ++ cells ++ row.drop (column + cells.length)

/-- Lay a text over a row from a column on. -/
def put (row : Row) (column : Nat) (text : List Char) (ink : Ink) : Row :=
  overlay row column (ofText text ink)

/-- Put an ellipsis in place of the cells from one column up to another, if there are so many. -/
def elide (row : Row) (start stop : Nat) : Row :=
  if row.length < stop then row else row.take start ++ ellipsis ++ row.drop stop

/-- The characters of a row. -/
def chars (row : Row) : List Char := row.map (·.char)

/-- The characters of a row with escape sequences, for a terminal that is switched to `ink`. At the
end it is switched to no ink at all. -/
def paint (ink : Ink) : Row → List Char
  | [] => ink.off
  | cell :: rest =>
    if cell.ink = ink then cell.char :: paint ink rest
    else ink.off ++ cell.ink.on ++ cell.char :: paint cell.ink rest

/-- The text of a row. -/
def text (style : Style) (row : Row) : String :=
  match style with
  | .plain => String.ofList row.chars
  | .colored => String.ofList (paint .plain row)

end Row

end ScanSchema.Excerpt
