import ScanSchema.Proofs.Scan.Round
import ScanSchema.Table.Braces

/-!
# Scanning as a function of the text

`Table.tokenize` says without a cursor what a table finds in a list of characters: it follows the
automaton from the start state of the mode, takes what the first outcome that does not go on says,
and begins again behind that. `Scanner.findings` is what a drained scanner reports and hands out, in
the order in which it does so. The two agree for every scanner from wherever it stands.
-/

namespace ScanSchema

/-- What is found in a text. -/
inductive Finding where
  /-- A token that is kept. -/
  | token (token : Token)
  /-- An error. -/
  | error (error : LexicalError)
  deriving DecidableEq, Repr

namespace Finding

/-- The token found. -/
def token? : Finding → Option Token
  | .token found => some found
  | .error _ => none

/-- The error found. -/
def error? : Finding → Option LexicalError
  | .token _ => none
  | .error found => some found

end Finding

namespace Table

variable {σ : Type}

/-- The predicate that decides which tokens are kept: the hook, or else the actions of the rules. -/
def keeper (table : Table) : Option (Hook σ) → Hook σ
  | none => fun memory token => (table.ruleAction token.rule == .emit, memory)
  | some hook => hook

/-- A walk leaves no more characters than it was given. -/
theorem length_rest_walk_le {table : Table} {state : Nat} {chars : List Char} {walk : Walk}
    (hwalk : table.walk state chars = walk) : walk.rest.length ≤ chars.length := by
  have hsplit : walk.text ++ walk.rest = chars := by
    rw [← hwalk]
    exact Automaton.text_append_rest_walk state chars
  have hlength := congrArg List.length hsplit
  rw [List.length_append] at hlength
  omega

/-- A walk from a start state that accepts a lexeme has read a character. -/
theorem length_rest_walk_lt {table : Table} {mode state lexeme : Nat} {chars text rest : List Char}
    (hmode : mode < table.modeCount)
    (hwalk : table.walk mode chars = ⟨text, rest, state, .accept lexeme⟩) :
    rest.length < chars.length := by
  have hsplit : (table.walk mode chars).text ++ (table.walk mode chars).rest = chars :=
    Automaton.text_append_rest_walk mode chars
  have hreads : table.Reads mode (table.walk mode chars).text (table.walk mode chars).state :=
    Automaton.reads_walk mode chars
  have hout : (table.walk mode chars).outcome = table.outcome (table.walk mode chars).state
      (table.classes.classOf (table.walk mode chars).rest.head?) :=
    Automaton.outcome_walk mode chars
  rw [hwalk] at hsplit hreads hout
  have hlength : (text ++ rest).length = chars.length := congrArg List.length hsplit
  rw [List.length_append] at hlength
  cases hreads with
  | nil =>
    -- The walk is still in the start state, which accepts no lexeme.
    exact absurd hout.symm (table.outcome_ne_accept hmode (table.classOf_lt _) lexeme)
  | cons =>
    rw [List.length_cons] at hlength
    omega

/-- The token at a location whose text is a lexeme. -/
def tokenAt (table : Table) (location : Location) (lexeme : Nat) (text : List Char) : Token :=
  ⟨table.lexemeRule lexeme, String.ofList text, location.offset, location.line⟩

end Table

namespace LexicalError

/-- The error that no rule matches the text at a location. -/
def invalidAt (location : Location) (text : List Char) : LexicalError :=
  ⟨location.offset, location.line,
    .invalidToken (location.after text).line (String.ofList text)⟩

/-- The error that the input ends inside the token at a location. -/
def unexpectedEndAt (location : Location) : LexicalError :=
  ⟨location.offset, location.line, .unexpectedEnd⟩

end LexicalError

namespace Table

variable {σ : Type}

/-- What a table finds in some characters, which begin at a location. From the start state of the
mode the automaton goes on as far as it can. The text so far is a token if it accepts a lexeme then,
and is followed by what is found behind it. A character that is rejected is part of an invalid text,
and scanning goes on behind it; the end of the input is rejected once. -/
def tokenize (table : Table) (keep : Hook σ) (mode : Fin table.modeCount) (memory : σ)
    (location : Location) (chars : List Char) : List Finding :=
  match _hwalk : table.walk mode chars with
  | ⟨text, rest, _, .accept lexeme⟩ =>
    match keep memory (table.tokenAt location lexeme text) with
    | (true, memory) =>
      .token (table.tokenAt location lexeme text) ::
        table.tokenize keep mode memory (location.after text) rest
    | (false, memory) => table.tokenize keep mode memory (location.after text) rest
  | ⟨text, c :: rest, _, .reject⟩ =>
    .error (.invalidAt location (text ++ [c])) ::
      table.tokenize keep mode memory (location.after (text ++ [c])) rest
  | ⟨_, [], _, .reject⟩ => [.error (.unexpectedEndAt location)]
  | ⟨_, _, _, .acceptEnd⟩ => []
  | ⟨_, _, _, .goto _⟩ => []
termination_by chars.length
decreasing_by
  · exact length_rest_walk_lt mode.isLt _hwalk
  · exact length_rest_walk_lt mode.isLt _hwalk
  · exact Nat.lt_of_succ_le (length_rest_walk_le _hwalk)

end Table

namespace Scanner

variable {table : Table} {σ : Type} {scanner : Scanner table σ}

/-- What a scanner reports and hands out until the input ends: the errors of every call, and behind
them its token. -/
def findings (scanner : Scanner table σ) : List Finding :=
  let turn := scanner.nextToken
  let errors := (Event.errors turn.events).map Finding.error
  if _hend : turn.value.isEnd = true then errors
  else errors ++ .token turn.value :: turn.scanner.findings
termination_by scanner.cursor.remaining
decreasing_by exact remaining_nextToken_lt (Bool.eq_false_iff.mpr _hend)

/-- The tokens among the findings are those of the drained scanner, and the errors are its errors. -/
theorem filterMap_findings (scanner : Scanner table σ) :
    scanner.findings.filterMap Finding.token? = scanner.drain.value ∧
      scanner.findings.filterMap Finding.error? = Event.errors scanner.drain.events := by
  have htokens : ∀ errors : List LexicalError,
      (errors.map Finding.error).filterMap Finding.token? = [] := fun errors => by
    rw [List.filterMap_map, List.filterMap_eq_nil_iff]
    exact fun _ _ => rfl
  have herrors : ∀ errors : List LexicalError,
      (errors.map Finding.error).filterMap Finding.error? = errors := fun errors => by
    rw [List.filterMap_map]
    exact List.filterMap_some
  fun_induction findings scanner with
  | case1 scanner turn errors hend =>
    rw [drain, dif_pos hend]
    exact ⟨htokens _, herrors _⟩
  | case2 scanner turn errors hend ih =>
    obtain ⟨ihtokens, iherrors⟩ := ih
    rw [drain, dif_neg hend, List.filterMap_append, List.filterMap_append, htokens, herrors,
      Event.errors_append]
    exact ⟨congrArg (turn.value :: ·) ihtokens, congrArg (Event.errors turn.events ++ ·) iherrors⟩

/-- What is found begins with the errors of the first call, then its token. -/
theorem findings_eq (scanner : Scanner table σ) :
    scanner.findings = (Event.errors scanner.nextToken.events).map Finding.error ++
      if scanner.nextToken.value.isEnd then []
      else .token scanner.nextToken.value :: scanner.nextToken.scanner.findings := by
  rw [findings]
  by_cases hend : scanner.nextToken.value.isEnd = true
  · rw [dif_pos hend, if_pos hend, List.append_nil]
  · rw [dif_neg hend, if_neg hend]

/-- Before the end, the findings begin with those of a round, and go on where it leaves off unless
it ends the input. -/
theorem findings_of_round (h : scanner.cursor.exhausted = false) :
    scanner.findings = (Event.errors scanner.round.events).map Finding.error ++
      match scanner.round.value with
      | none => scanner.round.scanner.findings
      | some token => if token.isEnd then [] else .token token :: scanner.round.scanner.findings := by
  cases hround : scanner.round.value with
  | some token => rw [findings_eq, nextToken_of_round_some h hround]
  | none =>
    rw [findings_eq, nextToken_of_round_none h hround, Event.errors_append, List.map_append,
      List.append_assoc, ← findings_eq]

/-- A scanner stands where a tokenizer would go on. -/
structure Stands (scanner : Scanner table σ) (keep : Hook σ) (mode : Fin table.modeCount)
    (memory : σ) (location : Location) (chars : List Char) : Prop where
  /-- It may go on. -/
  ready : scanner.Ready
  /-- The same predicate decides. -/
  keeper : table.keeper scanner.hook = keep
  /-- The next token starts in that mode. -/
  mode : scanner.cursor.mode = mode
  /-- The predicate remembers the same. -/
  memory : scanner.memory = memory
  /-- The next character has that location. -/
  location : scanner.cursor.location = location
  /-- Those characters remain. -/
  unconsumed : scanner.cursor.unconsumed = chars

section Stands

variable {keep : Hook σ} {mode : Fin table.modeCount} {memory : σ} {location : Location}
  {chars : List Char}

/-- The scanner is about to walk over the same characters. -/
theorem way_of_stands (h : scanner.Stands keep mode memory location chars) :
    scanner.way = table.walk mode chars := by
  rw [way, h.mode, h.unconsumed]

/-- The next attempt stops for the reason for which the way over the characters stops. -/
theorem stop_of_stands (h : scanner.Stands keep mode memory location chars) :
    scanner.attempt.stop = (table.walk mode chars).stop := by
  rw [stop_attempt h.ready.primed, way_of_stands h]

/-- Behind a round that does not end the input, the scanner stands behind what that consumed. -/
theorem stands_round (h : scanner.Stands keep mode memory location chars)
    (hgoes : (table.walk mode chars).stop.endsInput = false) :
    scanner.round.scanner.Stands keep mode scanner.round.scanner.memory
      (location.after (table.walk mode chars).consumed) (table.walk mode chars).left := by
  have hway := way_of_stands h
  have hcursor := cursor_round h.ready
  rw [← hway] at hgoes ⊢
  refine
    { ready := ⟨primed_round h.ready, by rw [hcursor]; exact hgoes⟩
      keeper := by rw [hook_round]; exact h.keeper
      mode := by rw [hcursor]; exact h.mode
      memory := rfl
      location := ?_
      unconsumed := unconsumed_round h.ready }
  rw [hcursor, ← h.location]
  rfl

/-- An error is reported at the location of the next character. -/
theorem errorHere_of_stands (h : scanner.Stands keep mode memory location chars)
    (fault : LexicalFault) :
    scanner.errorHere fault = ⟨location.offset, location.line, fault⟩ := by
  rw [← h.location]
  rfl

/-- The match of the next attempt is the token that starts here. -/
theorem candidate_of_stands (h : scanner.Stands keep mode memory location chars) (lexeme : Nat) :
    scanner.candidate lexeme = table.tokenAt location lexeme (table.walk mode chars).consumed := by
  rw [candidate, text_moved h.ready.primed, way_of_stands h, ← h.location]
  rfl

/-- The error of an invalid attempt is about the text that starts here. -/
theorem rejected_of_stands (h : scanner.Stands keep mode memory location chars) :
    scanner.errorHere scanner.rejected =
      .invalidAt location (table.walk mode chars).consumed := by
  have hline : scanner.moved.cursor.line =
      (location.after (table.walk mode chars).consumed).line := by
    rw [cursor_moved h.ready.primed, way_of_stands h, ← h.location]
    rfl
  rw [errorHere_of_stands h, rejected, hline, text_moved h.ready.primed, way_of_stands h]
  rfl

/-- The hook, or the action of the rule, decides as the predicate does, and no error is reported. -/
theorem judged_of_stands (h : scanner.Stands keep mode memory location chars) (lexeme : Nat) :
    (scanner.judged lexeme).value = (keep memory (scanner.candidate lexeme)).1 ∧
      (scanner.judged lexeme).scanner.memory = (keep memory (scanner.candidate lexeme)).2 ∧
      Event.errors (scanner.judged lexeme).events = [] := by
  rw [← h.keeper, ← h.memory]
  have hhook : scanner.moved.hook = scanner.hook := rfl
  cases hset : scanner.hook with
  | none =>
    rw [judged, judge, hhook, hset]
    exact ⟨rfl, rfl, rfl⟩
  | some hook =>
    rw [judged, judge, hhook, hset]
    exact ⟨rfl, rfl, rfl⟩

/-- A round that matches a lexeme reports no error and has the token if the predicate keeps it. The
scanner stands behind the text then, kept or not. -/
theorem round_of_accept (h : scanner.Stands keep mode memory location chars) {state lexeme : Nat}
    {text rest : List Char} (hwalk : table.walk mode chars = ⟨text, rest, state, .accept lexeme⟩)
    {kept : Bool} {memory' : σ}
    (hkeep : keep memory (table.tokenAt location lexeme text) = (kept, memory')) :
    Event.errors scanner.round.events = [] ∧
      scanner.round.value = (if kept then some (table.tokenAt location lexeme text) else none) ∧
      scanner.round.scanner.Stands keep mode memory' (location.after text) rest := by
  have hstop : scanner.attempt.stop = .matched lexeme := by
    rw [stop_of_stands h, hwalk]
    rfl
  have hgoes : (table.walk mode chars).stop.endsInput = false := by
    rw [hwalk]
    rfl
  have hcandidate := candidate_of_stands h lexeme
  have hstands := stands_round h hgoes
  rw [hwalk] at hcandidate hstands
  have htoken : scanner.candidate lexeme = table.tokenAt location lexeme text := hcandidate
  obtain ⟨hjudged, hremembers, herrors⟩ := judged_of_stands h lexeme
  have hvalue : (scanner.judged lexeme).value = kept := by rw [hjudged, htoken, hkeep]
  have hmemory : (scanner.judged lexeme).scanner.memory = memory' := by
    rw [hremembers, htoken, hkeep]
  rw [← hmemory]
  cases kept with
  | true =>
    rw [round_of_kept hstop hvalue] at hstands ⊢
    refine ⟨?_, congrArg some htoken, hstands⟩
    rw [Event.errors_append, errors_looked, herrors]
    rfl
  | false =>
    rw [round_of_dropped hstop hvalue] at hstands ⊢
    refine ⟨?_, rfl, hstands⟩
    rw [Event.errors_append, Event.errors_append, errors_looked, herrors]
    rfl

/-- Where a character is rejected, the text up to it is reported, and the scanner stands behind it. -/
theorem round_of_reject (h : scanner.Stands keep mode memory location chars) {state : Nat} {c : Char}
    {text rest : List Char} (hwalk : table.walk mode chars = ⟨text, c :: rest, state, .reject⟩) :
    Event.errors scanner.round.events = [.invalidAt location (text ++ [c])] ∧
      scanner.round.value = none ∧
      scanner.round.scanner.Stands keep mode memory (location.after (text ++ [c])) rest := by
  have hstop : scanner.attempt.stop = .invalid := by
    rw [stop_of_stands h, hwalk]
    rfl
  have hgoes : (table.walk mode chars).stop.endsInput = false := by
    rw [hwalk]
    rfl
  have hrejected := rejected_of_stands h
  have hstands := stands_round h hgoes
  have hmemory : scanner.moved.memory = memory := h.memory
  rw [hwalk] at hrejected hstands
  rw [round_of_invalid hstop] at hstands ⊢
  refine ⟨?_, rfl, hmemory ▸ hstands⟩
  rw [Event.errors_append, errors_looked, hrejected]
  rfl

/-- A scanner finds what a tokenizer finds from there. -/
theorem findings_of_stands (h : scanner.Stands keep mode memory location chars) :
    scanner.findings = table.tokenize keep mode memory location chars := by
  fun_induction Table.tokenize table keep mode memory location chars generalizing scanner with
  | case1 memory location chars text rest state lexeme hwalk memory' hkeep ih =>
    obtain ⟨herrors, hvalue, hstands⟩ := round_of_accept h hwalk hkeep
    have hend : (table.tokenAt location lexeme text).isEnd = false :=
      Table.isEnd_lexemeRule_of_stop (Table.lt_stateCount_of_mode mode.isLt)
        (Walk.stop_eq_matched_iff.mpr (congrArg Walk.outcome hwalk))
    rw [findings_of_round h.ready.live, herrors, hvalue, if_pos rfl]
    dsimp only
    rw [if_neg (Bool.eq_false_iff.mp hend), ih hstands]
    rfl
  | case2 memory location chars text rest state lexeme hwalk memory' hkeep ih =>
    obtain ⟨herrors, hvalue, hstands⟩ := round_of_accept h hwalk hkeep
    rw [findings_of_round h.ready.live, herrors, hvalue, if_neg Bool.false_ne_true]
    exact ih hstands
  | case3 memory location chars text c rest state hwalk ih =>
    obtain ⟨herrors, hvalue, hstands⟩ := round_of_reject h hwalk
    rw [findings_of_round h.ready.live, herrors, hvalue]
    exact congrArg (Finding.error _ :: ·) (ih hstands)
  | case4 memory location chars text state hwalk =>
    have hstop : scanner.attempt.stop = .unexpectedEnd := by
      rw [stop_of_stands h, hwalk]
      rfl
    rw [findings_of_round h.ready.live, round_of_unexpectedEnd hstop, Event.errors_append,
      errors_looked, errorHere_of_stands h]
    rfl
  | case5 memory location chars text rest state hwalk =>
    have hstop : scanner.attempt.stop = .endOfInput := by
      rw [stop_of_stands h, hwalk]
      rfl
    rw [findings_of_round h.ready.live, round_of_endOfInput hstop, errors_looked]
    rfl
  | case6 memory location chars text rest state next hwalk =>
    exact absurd (congrArg Walk.outcome hwalk)
      (Table.outcome_walk_ne_goto (Table.lt_stateCount_of_mode mode.isLt) chars next)

end Stands

/-- Drained from the start of an input in a mode, a scanner finds what the tokenizer finds in the
characters: errors and kept tokens come in that order, and so the tokens handed out are its tokens
and the errors reported are its errors. -/
theorem drain_eq_tokenize (table : Table) (hook : Option (Hook σ)) (memory : σ)
    (mode : Fin table.modeCount) (input : List Char) :
    ∃ turn, ({ Scanner.start table input memory with hook } : Scanner table σ).setMode mode =
        .ok turn ∧
      let findings := table.tokenize (table.keeper hook) mode memory .start input
      turn.scanner.findings = findings ∧
        turn.scanner.drain.value = findings.filterMap Finding.token? ∧
        Event.errors turn.scanner.drain.events = findings.filterMap Finding.error? := by
  refine ⟨_, dif_pos mode.isLt, ?_⟩
  have hstands : ({ Scanner.start table input memory with
        cursor := { Cursor.start input with mode := mode.val }
        mode_lt := mode.isLt
        hook } : Scanner table σ).Stands (table.keeper hook) mode memory .start input :=
    { ready := ⟨Cursor.primed_start input, rfl⟩
      keeper := rfl
      mode := rfl
      memory := rfl
      location := rfl
      unconsumed := Cursor.unconsumed_start input }
  have hfindings := findings_of_stands hstands
  obtain ⟨htokens, herrors⟩ := filterMap_findings _
  rw [hfindings] at htokens herrors
  exact ⟨hfindings, htokens.symm, herrors.symm⟩

/-- A brace, and a literal that is broken off by the end of its line. -/
example :
    Table.braces.tokenize (Table.braces.keeper none) ⟨0, Table.modeCount_pos _⟩ () .start
      ['\x7b', '"', '\n'] =
      [.token ⟨⟨1⟩, "\x7b", 0, 1⟩, .error ⟨1, 1, .invalidToken 2 "\"\n"⟩] := by
  decide +kernel

end Scanner

end ScanSchema
