import ScanSchema.Text.Bytes
import ScanSchema.Text.Shown

/-!
# Lines of a text

A line feed ends a line, and a carriage return right in front of it belongs to the line end. Every
line knows which bytes it takes, so that a byte offset has a place: a line, and a column in it.
-/

namespace ScanSchema

/-- A line of a text. -/
structure Line where
  /-- Byte offset of its first character. -/
  start : Nat
  /-- Its text, without the line end. -/
  text : List Char
  /-- The bytes of its line end. -/
  endSize : Nat
  deriving DecidableEq, Repr, Inhabited

namespace Line

/-- Byte offset of its line end. -/
def textStop (line : Line) : Nat := line.start + Text.byteLength line.text

/-- Byte offset of what follows it. -/
def stop (line : Line) : Nat := line.textStop + line.endSize

/-- The line that a line feed ends. Its characters are given from the last one to the first. -/
def ofReversed (start : Nat) : List Char → Line
  | '\r' :: text => ⟨start, text.reverse, 2⟩
  | text => ⟨start, text.reverse, 1⟩

/-- Cut a text that starts at byte `start` into lines; `line` holds the characters of the current
line, from the last one to the first. -/
def cut (start : Nat) (line : List Char) : List Char → List Line
  | [] => if line.isEmpty then [] else [⟨start, line.reverse, 0⟩]
  | c :: rest =>
    if c = '\n' then
      let ended := ofReversed start line
      ended :: cut ended.stop [] rest
    else cut start (c :: line) rest

/-- The line of an empty text. -/
def empty : Line := ⟨0, [], 0⟩

/-- The lines of a text: at least one, and none behind a line end that ends the text. -/
def ofText (text : String) : List Line :=
  match cut 0 [] text.toList with
  | [] => [empty]
  | lines => lines

/-- Whether it shows nothing but blank space. -/
def isBlank (line : Line) : Bool := line.text.all Text.isBlank

/-- The columns of blank space at the front of some characters; a tab takes four, and every other
blank counts for one. -/
def indentation : List Char → Nat
  | [] => 0
  | c :: rest =>
    if Text.isBlank c then (if c = '\t' then 4 else 1) + indentation rest else 0

/-- Leave out blank space at the front. -/
def trimStart (text : List Char) : List Char := text.dropWhile Text.isBlank

/-- Leave out blank space at both ends. -/
def trim (text : List Char) : List Char := (trimStart (trimStart text).reverse).reverse

/-- Whether it holds more than blank space, one bracket, or a comment that is no documentation. -/
def hasContent (line : Line) : Bool :=
  match trim line.text with
  | [] => false
  | [c] => !"()[]\x7b\x7d".toList.contains c
  | '/' :: '/' :: rest => rest.head? == some '/' || rest.head? == some '!'
  | _ => true

end Line

/-- The place of a byte offset in the lines of a text. -/
structure Place where
  /-- Number of the line, counted from 0. -/
  index : Nat
  /-- The line. -/
  line : Line
  /-- The byte offset. -/
  offset : Nat
  deriving DecidableEq, Repr, Inhabited

namespace Place

/-- The place of an offset: in the line that takes the byte there, or in the last line if the
offset is behind all of them. -/
def ofOffset (lines : List Line) (offset : Nat) : Place :=
  let index := min (lines.findIdx fun line => offset < line.stop) (lines.length - 1)
  ⟨index, lines[index]?.getD .empty, offset⟩

/-- The characters of a text that begin in its first `bytes` bytes. -/
def takeBytes : Nat → List Char → List Char
  | _, [] => []
  | bytes, c :: rest => if bytes = 0 then [] else c :: takeBytes (bytes - c.utf8Size) rest

/-- The text of the line in front of the place. -/
def before (place : Place) : List Char :=
  takeBytes (place.offset - place.line.start) place.line.text

/-- Whether the place is inside the line end or behind it. -/
def isBehindText (place : Place) : Bool := place.line.textStop < place.offset

/-- Number of the character at the place, counted from 1. The line end counts as a character. -/
def charNumber (place : Place) : Nat :=
  place.before.length + (if place.isBehindText then 2 else 1)

/-- The columns that the text in front of the place is shown in. -/
def column (place : Place) : Nat := Text.shownWidth place.before

end Place

end ScanSchema
