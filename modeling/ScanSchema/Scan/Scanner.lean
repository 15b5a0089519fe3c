import ScanSchema.Misuse
import ScanSchema.Scan.Event

/-!
# Scanners

A scanner runs a table over a source. `nextToken` makes attempts until one brings a token that is
kept or the input ends: text that no rule matches is reported and dropped, and a hook, or the rule's
own action where there is none, decides which matches are kept. Every operation answers with a
`Turn`: its value, the events on the way and the scanner afterwards.

Scans end because each attempt that does not end the input consumes a character; the lemmas about
attempts say so for every legal table.
-/

namespace ScanSchema

/-- A predicate on tokens that may remember what it has seen. -/
abbrev Hook (σ : Type) := σ → Token → Bool × σ

/-- A table at work on a source, with a hook whose memory is of type `σ`. -/
structure Scanner (table : Table) (σ : Type) where
  /-- The place in the input. -/
  cursor : Cursor
  /-- The current mode has a start state. -/
  mode_lt : cursor.mode < table.modeCount
  /-- Decides which matches are kept; without a hook the actions of the rules do. -/
  hook : Option (Hook σ) := none
  /-- What the hook remembers. -/
  memory : σ

/-- What one operation of a scanner brings. -/
structure Turn (table : Table) (σ α : Type) where
  /-- The answer. -/
  value : α
  /-- What happened on the way. -/
  events : List Event
  /-- The scanner afterwards. -/
  scanner : Scanner table σ

namespace Scanner

variable {table : Table} {σ τ : Type}

/-- A scanner at the start of an input, in mode 0. -/
def start (table : Table) (input : List Char) (memory : σ) : Scanner table σ :=
  { cursor := .start input, mode_lt := table.modeCount_pos, memory }

/-- Let a hook decide which matches are kept. -/
def withHook (scanner : Scanner table σ) (hook : Hook τ) (memory : τ) : Scanner table τ :=
  { cursor := scanner.cursor, mode_lt := scanner.mode_lt, hook := some hook, memory }

/-- Begin again on another input. The hook and its memory stay. -/
def reset (scanner : Scanner table σ) (input : List Char) : Scanner table σ :=
  { scanner with cursor := .start input, mode_lt := table.modeCount_pos }

/-- Change the mode for the tokens to come, if the table has that mode. -/
def setMode (scanner : Scanner table σ) (mode : Nat) : Except Misuse (Turn table σ Unit) :=
  if h : mode < table.modeCount then
    .ok ⟨(), [.modeSet scanner.cursor.mode mode],
      { scanner with cursor := { scanner.cursor with mode }, mode_lt := h }⟩
  else .error (.modeOutOfRange mode table.modeCount)

/-- Change the line counter. Any number is a line, and the next line end counts on from it. -/
def setLine (scanner : Scanner table σ) (line : Nat) : Scanner table σ :=
  { scanner with cursor := { scanner.cursor with line }, mode_lt := scanner.mode_lt }

/-- Change the offset counter. Any number is an offset, and the next character counts on from it. -/
def setOffset (scanner : Scanner table σ) (offset : Nat) : Scanner table σ :=
  { scanner with cursor := { scanner.cursor with offset }, mode_lt := scanner.mode_lt }

/-- What `restore` can put back later. -/
def checkpoint (scanner : Scanner table σ) : Checkpoint := scanner.cursor.checkpoint

/-- Put back a mode and a position, if the table has that mode. No character is unread. -/
def restore (scanner : Scanner table σ) (point : Checkpoint) :
    Except Misuse (Turn table σ Unit) :=
  (scanner.setMode point.mode).map fun turn =>
    { turn with scanner := (turn.scanner.setLine point.line).setOffset point.offset }

/-- The scanner after its cursor has moved within the mode. -/
def moveTo (scanner : Scanner table σ) (cursor : Cursor)
    (hmode : cursor.mode = scanner.cursor.mode) : Scanner table σ :=
  { scanner with cursor, mode_lt := hmode ▸ scanner.mode_lt }

/-- The scanner once it has reported the end of its input. -/
def exhaust (scanner : Scanner table σ) : Scanner table σ :=
  scanner.moveTo { scanner.cursor with exhausted := true } rfl

/-- Make one attempt from where the scanner stands. -/
def attempt (scanner : Scanner table σ) : Attempt :=
  table.run scanner.cursor.mode scanner.cursor.beginToken

/-- An attempt at a token leaves the mode as it is. -/
theorem mode_attempt (scanner : Scanner table σ) :
    scanner.attempt.cursor.mode = scanner.cursor.mode := Automaton.mode_run

/-- Ask the hook, or else the action of the rule, whether a token is kept. -/
def judge (scanner : Scanner table σ) (token : Token) : Turn table σ Bool :=
  match scanner.hook with
  | none => ⟨table.ruleAction token.rule == .emit, [], scanner⟩
  | some hook =>
    let (kept, memory) := hook scanner.memory token
    ⟨kept, [.shown token], { scanner with memory }⟩

/-- Asking the hook leaves the cursor where it is. -/
theorem cursor_judge (scanner : Scanner table σ) (token : Token) :
    (scanner.judge token).scanner.cursor = scanner.cursor := by
  unfold judge
  split <;> rfl

/-- The end-of-input token for a scanner that meets the end in its next attempt. -/
def endToken (scanner : Scanner table σ) : Token :=
  .endOfInput scanner.cursor.offset scanner.cursor.line

/-- Scan one token. Invalid text is reported and dropped and unwanted matches are dropped, so the
answer is a kept token or the end of the input; after the end, the end comes again. -/
def nextToken (scanner : Scanner table σ) : Turn table σ Token :=
  if scanner.cursor.exhausted then ⟨scanner.endToken, [], scanner⟩
  else
    let attempt := scanner.attempt
    let looked := attempt.lookups.map Event.looked
    let offset := scanner.cursor.offset
    let line := scanner.cursor.line
    let moved := scanner.moveTo attempt.cursor scanner.mode_attempt
    match hstop : attempt.stop with
    | .endOfInput => ⟨scanner.endToken, looked, moved.exhaust⟩
    | .unexpectedEnd =>
      ⟨scanner.endToken, looked ++ [.failed ⟨offset, line, .unexpectedEnd⟩], moved.exhaust⟩
    | .invalid =>
      let fault := LexicalFault.invalidToken attempt.cursor.line attempt.cursor.text
      let rest := moved.nextToken
      { rest with events := looked ++ .failed ⟨offset, line, fault⟩ :: rest.events }
    | .matched lexeme =>
      let token : Token := ⟨table.lexemeRule lexeme, attempt.cursor.text, offset, line⟩
      let judged := moved.judge token
      if judged.value then ⟨token, looked ++ judged.events, judged.scanner⟩
      else
        let rest := judged.scanner.nextToken
        { rest with events := looked ++ judged.events ++ .dropped token :: rest.events }
termination_by scanner.cursor.remaining
decreasing_by
  · exact Automaton.remaining_run_lt_of_invalid hstop
  · rw [cursor_judge]
    exact Table.remaining_run_lt_of_matched scanner.mode_lt hstop

end Scanner

end ScanSchema
