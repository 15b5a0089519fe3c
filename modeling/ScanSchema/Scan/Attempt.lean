import ScanSchema.Scan.Cursor
import ScanSchema.Table.Basic

/-!
# Attempts at a token

An attempt runs the automaton from a state until an outcome stops it. It keeps the list of its
look-ups, so that it can be told afterwards what the automaton was asked and what it answered. The
lemmas say that an attempt never goes back, that one that drops text has consumed a character, and
that one that matches from the start state of a mode has too.
-/

namespace ScanSchema

/-- One look-up in the transition matrix. -/
structure Lookup where
  /-- The state of the automaton. -/
  state : Nat
  /-- The class of the next character. -/
  cls : Nat
  /-- The outcome found. -/
  outcome : Outcome
  deriving DecidableEq, Repr, Inhabited

/-- Why an attempt stopped. -/
inductive Stop where
  /-- The input ended inside the token. -/
  | unexpectedEnd
  /-- No rule matches the text, whose last character is the one that was rejected. -/
  | invalid
  /-- The input may end here. -/
  | endOfInput
  /-- The text is a lexeme; the next character does not belong to it. -/
  | matched (lexeme : Nat)
  deriving DecidableEq, Repr, Inhabited

/-- A finished attempt. -/
structure Attempt where
  /-- Why it stopped. -/
  stop : Stop
  /-- All look-ups, the first one first. -/
  lookups : List Lookup
  /-- The cursor where it stopped. -/
  cursor : Cursor
  deriving DecidableEq, Repr, Inhabited

namespace Automaton

/-- Run the automaton from a state. Going on and rejecting consume the next character, accepting
leaves it. At the end of the input nothing can be consumed, so an outcome that asks for a character
there leaves the token unfinished. -/
def run (automaton : Automaton) (state : Nat) (cursor : Cursor) : Attempt :=
  let cls := automaton.classes.classOf cursor.lookahead
  let outcome := automaton.outcome state cls
  let lookup : Lookup := ⟨state, cls, outcome⟩
  match outcome, _hnext : cursor.lookahead with
  | .goto next, some _ =>
    let rest := automaton.run next cursor.advance
    { rest with lookups := lookup :: rest.lookups }
  | .reject, some _ => ⟨.invalid, [lookup], cursor.advance⟩
  | .goto _, none => ⟨.unexpectedEnd, [lookup], cursor⟩
  | .reject, none => ⟨.unexpectedEnd, [lookup], cursor⟩
  | .acceptEnd, _ => ⟨.endOfInput, [lookup], cursor⟩
  | .accept lexeme, _ => ⟨.matched lexeme, [lookup], cursor⟩
termination_by cursor.remaining
decreasing_by exact Cursor.remaining_advance_lt _hnext

variable {automaton : Automaton} {state : Nat} {cursor : Cursor}

/-- An attempt stays in its mode. -/
theorem mode_run : (automaton.run state cursor).cursor.mode = cursor.mode := by
  fun_induction automaton.run state cursor with
  | case1 _ cursor _ _ _ _ _ _ _ _ ih => exact ih.trans cursor.mode_advance
  | case2 _ cursor => exact cursor.mode_advance
  | _ => rfl

/-- An attempt never goes back. -/
theorem remaining_run_le : (automaton.run state cursor).cursor.remaining ≤ cursor.remaining := by
  fun_induction automaton.run state cursor with
  | case1 _ _ _ _ _ _ _ hnext _ _ ih =>
    exact Nat.le_of_lt (Nat.lt_of_le_of_lt ih (Cursor.remaining_advance_lt hnext))
  | case2 _ _ _ _ _ _ hnext => exact Nat.le_of_lt (Cursor.remaining_advance_lt hnext)
  | _ => exact Nat.le_refl _

/-- An attempt that drops text has consumed a character. -/
theorem remaining_run_lt_of_invalid (h : (automaton.run state cursor).stop = .invalid) :
    (automaton.run state cursor).cursor.remaining < cursor.remaining := by
  fun_induction automaton.run state cursor with
  | case1 _ _ _ _ _ _ _ hnext _ _ _ =>
    exact Nat.lt_of_le_of_lt remaining_run_le (Cursor.remaining_advance_lt hnext)
  | case2 _ _ _ _ _ _ hnext => exact Cursor.remaining_advance_lt hnext
  | _ => simp at h

end Automaton

/-- An attempt that matches a lexeme from the start state of a mode has consumed a character. -/
theorem Table.remaining_run_lt_of_matched {table : Table} {mode : Nat} {cursor : Cursor}
    {lexeme : Nat} (hmode : mode < table.modeCount)
    (h : (table.run mode cursor).stop = .matched lexeme) :
    (table.run mode cursor).cursor.remaining < cursor.remaining := by
  revert h
  fun_cases Automaton.run table.toAutomaton mode cursor with
  | case1 _ _ _ _ _ hnext _ _ =>
    exact fun _ =>
      Nat.lt_of_le_of_lt Automaton.remaining_run_le (Cursor.remaining_advance_lt hnext)
  | case6 _ _ _ _ hout => exact absurd hout (table.outcome_ne_accept hmode (table.classOf_lt _) _)
  | _ => exact fun h => by simp at h

end ScanSchema
