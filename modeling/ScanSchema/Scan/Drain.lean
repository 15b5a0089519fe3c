import ScanSchema.Scan.Scanner

/-!
# Draining a scanner

A scanner is drained by asking for tokens until the end of the input comes. Every token that is not
the end has consumed a character, so this ends too.
-/

namespace ScanSchema.Scanner

variable {table : Table} {σ : Type}

/-- An attempt at a token gives no character back. -/
theorem remaining_attempt_le (scanner : Scanner table σ) :
    scanner.attempt.cursor.remaining ≤ scanner.cursor.remaining :=
  show _ ≤ scanner.cursor.beginToken.remaining from Automaton.remaining_run_le

/-- A token that is not the end of the input has consumed a character. -/
theorem remaining_nextToken_lt {scanner : Scanner table σ}
    (h : scanner.nextToken.value.isEnd = false) :
    scanner.nextToken.scanner.cursor.remaining < scanner.cursor.remaining := by
  fun_induction nextToken scanner with
  | case1 => exact absurd h (by simp [endToken, Token.isEnd_endOfInput])
  | case2 => exact absurd h (by simp [endToken, Token.isEnd_endOfInput])
  | case3 => exact absurd h (by simp [endToken, Token.isEnd_endOfInput])
  | case4 scanner _ attempt _ _ _ moved hstop _ _ ih =>
    exact Nat.lt_of_lt_of_le (ih h) scanner.remaining_attempt_le
  | case5 scanner _ attempt _ _ _ moved lexeme hstop token judged hkept =>
    rw [cursor_judge]
    exact Table.remaining_run_lt_of_matched scanner.mode_lt hstop
  | case6 scanner _ attempt _ _ _ moved lexeme hstop token judged hkept _ ih =>
    refine Nat.lt_of_lt_of_le (ih h) ?_
    rw [cursor_judge]
    exact scanner.remaining_attempt_le

/-- All tokens up to the end of the input, which is not among them. -/
def drain (scanner : Scanner table σ) : Turn table σ (List Token) :=
  let turn := scanner.nextToken
  if _hend : turn.value.isEnd = true then ⟨[], turn.events, turn.scanner⟩
  else
    let rest := turn.scanner.drain
    ⟨turn.value :: rest.value, turn.events ++ rest.events, rest.scanner⟩
termination_by scanner.cursor.remaining
decreasing_by exact remaining_nextToken_lt (Bool.eq_false_iff.mpr _hend)

/-- The next token, or nothing at the end of the input. -/
def nextToken? (scanner : Scanner table σ) : Turn table σ (Option Token) :=
  let turn := scanner.nextToken
  { turn with value := if turn.value.isEnd then none else some turn.value }

end ScanSchema.Scanner
