/-!
# Cursors

A cursor stands between the characters that were consumed and those that were not. It has pulled one
character further than it has consumed, the lookahead, and it keeps the text of the current token,
the lexer mode and the position. Characters come from a source that is pulled one by one and counts
how often it was asked.

Lines and offsets are counted without a limit. Where lines are counted in words of 32 bits and offsets in
words of 64, these are the counts as long as they do not leave the words.
-/

namespace ScanSchema

/-- Characters that are handed out one by one. -/
structure Source where
  /-- The characters not handed out yet. -/
  unread : List Char
  /-- How often the source was asked for a character. -/
  pulls : Nat := 0
  deriving DecidableEq, Repr, Inhabited

/-- Ask for the next character. -/
def Source.pull (source : Source) : Option Char × Source :=
  (source.unread.head?, { unread := source.unread.tail, pulls := source.pulls + 1 })

/-- The part of a cursor that a caller may save and put back: the mode and the position. It does
not hold the characters, so putting it back does not unread anything. -/
structure Checkpoint where
  /-- The lexer mode. -/
  mode : Nat
  /-- The line of the next character, of any size. -/
  line : Nat
  /-- The byte offset of the next character, of any size. -/
  offset : Nat
  deriving DecidableEq, Repr, Inhabited

/-- A place in the input. -/
structure Cursor where
  /-- The lexer mode in which the next token starts. -/
  mode : Nat := 0
  /-- The next character, pulled but not consumed. -/
  lookahead : Option Char
  /-- The source of all later characters. -/
  source : Source
  /-- The text consumed since the current token began. -/
  text : String := ""
  /-- The line in which the current token began. -/
  tokenLine : Nat := 1
  /-- The line of the next character. -/
  line : Nat := 1
  /-- The byte offset of the next character. -/
  offset : Nat := 0
  /-- Whether the end of the input was reported. -/
  exhausted : Bool := false
  deriving DecidableEq, Repr, Inhabited

namespace Cursor

/-- The cursor before the first character of an input. -/
def start (input : List Char) : Cursor :=
  let (lookahead, source) := Source.pull { unread := input }
  { lookahead, source }

/-- The characters that are not consumed yet, the lookahead first. -/
def unconsumed (cursor : Cursor) : List Char := cursor.lookahead.toList ++ cursor.source.unread

/-- How many characters are not consumed yet. -/
def remaining (cursor : Cursor) : Nat := cursor.unconsumed.length

/-- Begin a new token here. -/
def beginToken (cursor : Cursor) : Cursor :=
  { cursor with text := "", tokenLine := cursor.line }

/-- Consume the lookahead and pull the next character. At the end nothing is consumed. The counts of
lines and bytes have no limit. -/
def advance (cursor : Cursor) : Cursor :=
  match cursor.lookahead with
  | none => cursor
  | some c =>
    let (lookahead, source) := cursor.source.pull
    { cursor with
      lookahead
      source
      text := cursor.text.push c
      line := if c = '\n' then cursor.line + 1 else cursor.line
      offset := cursor.offset + c.utf8Size }

/-- What a caller may save. -/
def checkpoint (cursor : Cursor) : Checkpoint :=
  ⟨cursor.mode, cursor.line, cursor.offset⟩

/-- At first the whole input is unconsumed. -/
theorem unconsumed_start (input : List Char) : (start input).unconsumed = input := by
  cases input <;> rfl

/-- Consuming a character leaves the mode as it is. -/
theorem mode_advance (cursor : Cursor) : cursor.advance.mode = cursor.mode := by
  unfold advance
  split <;> rfl

/-- Consuming a character takes it off what remains. -/
theorem unconsumed_advance {cursor : Cursor} {c : Char} (h : cursor.lookahead = some c) :
    cursor.unconsumed = c :: cursor.advance.unconsumed := by
  simp only [advance, h, unconsumed, Source.pull, Option.toList_some]
  cases cursor.source.unread <;> rfl

/-- Consuming a character leaves fewer of them. -/
theorem remaining_advance_lt {cursor : Cursor} {c : Char} (h : cursor.lookahead = some c) :
    cursor.advance.remaining < cursor.remaining := by
  rw [remaining, remaining, unconsumed_advance h, List.length_cons]
  exact Nat.lt_succ_self _

end Cursor

end ScanSchema
