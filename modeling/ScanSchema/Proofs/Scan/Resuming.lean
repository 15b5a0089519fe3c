import ScanSchema.Proofs.Scan.Resetting

/-!
# Going on from a checkpoint

A checkpoint holds a mode and a position, but no characters. Together with the characters that remain
it is all that the calls to come depend on: a new scanner over these characters, to which the
checkpoint is restored, cannot be told apart from the old one by what it tells. What lies behind the
old scanner has no influence: the text of its last token, the line in which that began, and how often
it has asked its source. `Cursor.SameAhead` relates two cursors that may differ in these. The next
attempt makes them the same inside its token, and `Transcript.told_play_restored` is the statement for
all calls.
-/

namespace ScanSchema

namespace Cursor

/-- The same is ahead of two cursors: the same characters remain at the same position, to be read in
the same mode, and the end was reported to both or to none. -/
structure SameAhead (first second : Cursor) : Prop where
  /-- The modes are the same. -/
  mode_eq : second.mode = first.mode
  /-- The next characters are. -/
  lookahead_eq : second.lookahead = first.lookahead
  /-- All later characters are. -/
  unread_eq : second.source.unread = first.source.unread
  /-- The lines are. -/
  line_eq : second.line = first.line
  /-- The offsets are. -/
  offset_eq : second.offset = first.offset
  /-- The end was reported to both or to none. -/
  exhausted_eq : second.exhausted = first.exhausted

/-- Two cursors inside the same token, with the same ahead of them. -/
structure SameToken (first second : Cursor) : Prop extends SameAhead first second where
  /-- The texts so far are the same. -/
  text_eq : second.text = first.text
  /-- The lines in which the tokens began are. -/
  tokenLine_eq : second.tokenLine = first.tokenLine

variable {first second : Cursor}

/-- With the same ahead of them, two cursors begin the same token. -/
theorem SameAhead.beginToken (h : first.SameAhead second) :
    first.beginToken.SameToken second.beginToken where
  toSameAhead := ⟨h.mode_eq, h.lookahead_eq, h.unread_eq, h.line_eq, h.offset_eq, h.exhausted_eq⟩
  text_eq := rfl
  tokenLine_eq := h.line_eq

/-- Consuming the next character keeps two cursors inside the same token. -/
theorem SameToken.advance (h : first.SameToken second) :
    first.advance.SameToken second.advance := by
  unfold Cursor.advance
  rw [h.lookahead_eq]
  cases first.lookahead with
  | none => exact h
  | some c =>
    exact
      { mode_eq := h.mode_eq
        lookahead_eq := congrArg List.head? h.unread_eq
        unread_eq := congrArg List.tail h.unread_eq
        line_eq := by dsimp only; rw [h.line_eq]
        offset_eq := congrArg (· + c.utf8Size) h.offset_eq
        exhausted_eq := h.exhausted_eq
        text_eq := congrArg (·.push c) h.text_eq
        tokenLine_eq := h.tokenLine_eq }

end Cursor

namespace Automaton

/-- What an attempt does in one state. -/
theorem run_eq (automaton : Automaton) (state : Nat) (cursor : Cursor) :
    automaton.run state cursor =
      let cls := automaton.classes.classOf cursor.lookahead
      let lookup : Lookup := ⟨state, cls, automaton.outcome state cls⟩
      match automaton.outcome state cls, cursor.lookahead with
      | .goto next, some _ =>
        { automaton.run next cursor.advance with
          lookups := lookup :: (automaton.run next cursor.advance).lookups }
      | .reject, some _ => ⟨.invalid, [lookup], cursor.advance⟩
      | .goto _, none => ⟨.unexpectedEnd, [lookup], cursor⟩
      | .reject, none => ⟨.unexpectedEnd, [lookup], cursor⟩
      | .acceptEnd, _ => ⟨.endOfInput, [lookup], cursor⟩
      | .accept lexeme, _ => ⟨.matched lexeme, [lookup], cursor⟩ := by
  rw [run]
  dsimp only
  cases automaton.outcome state (automaton.classes.classOf cursor.lookahead) <;>
    cases cursor.lookahead <;> rfl

/-- Inside the same token an attempt looks up the same, stops for the same reason, and stays inside
the same token. -/
theorem sameToken_run (automaton : Automaton) {first second : Cursor}
    (h : first.SameToken second) (state : Nat) :
    (automaton.run state second).stop = (automaton.run state first).stop ∧
      (automaton.run state second).lookups = (automaton.run state first).lookups ∧
      (automaton.run state first).cursor.SameToken (automaton.run state second).cursor := by
  rw [run_eq automaton state first, run_eq automaton state second, h.lookahead_eq]
  dsimp only
  cases hout : automaton.outcome state (automaton.classes.classOf first.lookahead) with
  | goto next =>
    cases hlook : first.lookahead with
    | none => exact ⟨rfl, rfl, h⟩
    | some c =>
      obtain ⟨hstop, hlookups, hcursor⟩ := sameToken_run automaton h.advance next
      exact ⟨hstop, congrArg (List.cons _) hlookups, hcursor⟩
  | reject =>
    cases hlook : first.lookahead with
    | none => exact ⟨rfl, rfl, h⟩
    | some c => exact ⟨rfl, rfl, h.advance⟩
  | acceptEnd => exact ⟨rfl, rfl, h⟩
  | accept lexeme => exact ⟨rfl, rfl, h⟩
termination_by first.remaining
decreasing_by exact Cursor.remaining_advance_lt hlook

end Automaton

namespace Scanner

variable {table : Table} {σ α : Type} {first second : Scanner table σ}

/-- Two scanners that have the same ahead of them, with the same hook in the same state. -/
structure Resumes (first second : Scanner table σ) : Prop where
  /-- The same is ahead. -/
  ahead : first.cursor.SameAhead second.cursor
  /-- The hooks are the same. -/
  hook_eq : second.hook = first.hook
  /-- They remember the same. -/
  memory_eq : second.memory = first.memory

section Round

/-- Asked about the same token, both hooks give the same answer. -/
theorem Resumes.judge (h : first.Resumes second) (token : Token) :
    TurnsRelated Resumes (first.judge token) (second.judge token) := by
  rw [judge_eq, judge_eq, h.hook_eq, h.memory_eq]
  exact ⟨rfl, rfl, h.ahead, rfl, rfl⟩

/-- The same is ahead once the end was reported to both. -/
theorem Resumes.exhaust (h : first.Resumes second) : first.exhaust.Resumes second.exhaust where
  ahead := ⟨h.ahead.mode_eq, h.ahead.lookahead_eq, h.ahead.unread_eq, h.ahead.line_eq,
    h.ahead.offset_eq, rfl⟩
  hook_eq := h.hook_eq
  memory_eq := h.memory_eq

/-- Inside the same token, two attempts that stopped for the same reason are concluded in the same
way. -/
theorem Resumes.conclude (h : first.Resumes second) (htoken : first.cursor.SameToken second.cursor)
    (offset : Nat) (stop : Stop) :
    TurnsRelated Resumes (first.conclude offset stop) (second.conclude offset stop) := by
  unfold Scanner.conclude
  rw [htoken.tokenLine_eq, htoken.line_eq, htoken.text_eq]
  cases stop with
  | endOfInput => exact ⟨rfl, rfl, h.exhaust⟩
  | unexpectedEnd => exact ⟨rfl, rfl, h.exhaust⟩
  | invalid => exact ⟨rfl, rfl, h⟩
  | matched lexeme =>
    have hjudge := h.judge
      ⟨table.lexemeRule lexeme, first.cursor.text, offset, first.cursor.tokenLine⟩
    obtain ⟨hvalue, hevents, hscanner⟩ := hjudge
    dsimp only
    rw [hvalue, hevents]
    split
    next => exact ⟨rfl, rfl, hscanner⟩
    next => exact ⟨rfl, rfl, hscanner⟩

/-- One attempt brings the same. -/
theorem Resumes.round (h : first.Resumes second) :
    TurnsRelated Resumes first.round second.round := by
  have hattempt : second.attempt = table.run first.cursor.mode second.cursor.beginToken := by
    rw [attempt, h.ahead.mode_eq]
  obtain ⟨hstop, hlookups, htoken⟩ :=
    table.toAutomaton.sameToken_run h.ahead.beginToken first.cursor.mode
  rw [← hattempt] at hstop hlookups htoken
  have hmoved : first.moved.Resumes second.moved := ⟨htoken.toSameAhead, h.hook_eq, h.memory_eq⟩
  have hlooked : second.looked = first.looked := congrArg (List.map Event.looked) hlookups
  have hstopped : second.attempt.stop = first.attempt.stop := hstop
  obtain ⟨hvalue, hevents, hscanner⟩ :=
    hmoved.conclude htoken first.cursor.offset first.attempt.stop
  rw [round_eq_conclude, round_eq_conclude, h.ahead.offset_eq, hstopped, hlooked]
  exact ⟨hvalue, congrArg (first.looked ++ ·) hevents, hscanner⟩

end Round

/-- The end is reported at the same place. -/
theorem Resumes.endToken_eq (h : first.Resumes second) : second.endToken = first.endToken := by
  rw [endToken, endToken, h.ahead.offset_eq, h.ahead.line_eq]

/-- A call brings the same. -/
theorem Resumes.nextToken (h : first.Resumes second) :
    TurnsRelated Resumes first.nextToken second.nextToken :=
  nextToken_related (fun _ _ h => h.ahead.exhausted_eq) (fun _ _ h => h.endToken_eq)
    (fun _ _ h => h.round) h

section Perform

/-- Setting a mode is refused by both or carried out by both. -/
theorem Resumes.attempted_setMode (h : first.Resumes second) (mode : Nat) :
    TurnsRelated Resumes (first.attempted (first.setMode mode))
      (second.attempted (second.setMode mode)) := by
  unfold setMode
  by_cases hmode : mode < table.modeCount
  · rw [dif_pos hmode, dif_pos hmode]
    refine ⟨rfl, ?_, { h.ahead with mode_eq := rfl }, h.hook_eq, h.memory_eq⟩
    exact congrArg (fun before => [Event.modeSet before mode]) h.ahead.mode_eq
  · rw [dif_neg hmode, dif_neg hmode]
    exact ⟨rfl, rfl, h⟩

/-- So is putting back a mode and a position. -/
theorem Resumes.attempted_restore (h : first.Resumes second) (point : Checkpoint) :
    TurnsRelated Resumes (first.attempted (first.restore point))
      (second.attempted (second.restore point)) := by
  unfold restore setMode
  by_cases hmode : point.mode < table.modeCount
  · rw [dif_pos hmode, dif_pos hmode]
    refine ⟨rfl, ?_, { h.ahead with mode_eq := rfl, line_eq := rfl, offset_eq := rfl }, h.hook_eq,
      h.memory_eq⟩
    exact congrArg (fun before => [Event.modeSet before point.mode]) h.ahead.mode_eq
  · rw [dif_neg hmode, dif_neg hmode]
    exact ⟨rfl, rfl, h⟩

/-- Every call brings the same, and leaves the same ahead. -/
theorem Resumes.perform (h : first.Resumes second) (operation : Operation σ) :
    TurnsRelated Resumes (first.perform operation) (second.perform operation) := by
  obtain ⟨hvalue, hevents, hscanner⟩ := h.nextToken
  cases operation with
  | nextToken => exact ⟨congrArg Answer.token hvalue, hevents, hscanner⟩
  | iterate =>
    refine ⟨?_, hevents, hscanner⟩
    exact congrArg (fun token : Token =>
      Answer.item (if token.isEnd then none else some token)) hvalue
  | setMode mode => exact h.attempted_setMode mode
  | setLine line => exact ⟨rfl, rfl, { h.ahead with line_eq := rfl }, h.hook_eq, h.memory_eq⟩
  | setOffset offset =>
    exact ⟨rfl, rfl, { h.ahead with offset_eq := rfl }, h.hook_eq, h.memory_eq⟩
  | save =>
    refine ⟨congrArg Answer.saved ?_, rfl, h⟩
    rw [checkpoint, checkpoint, Cursor.checkpoint, Cursor.checkpoint, h.ahead.mode_eq,
      h.ahead.line_eq, h.ahead.offset_eq]
  | restore point => exact h.attempted_restore point
  | withHook hook memory => exact ⟨rfl, rfl, h.ahead, rfl, rfl⟩
  | reset input => exact ⟨rfl, rfl, ⟨rfl, rfl, rfl, rfl, rfl, rfl⟩, h.hook_eq, h.memory_eq⟩

end Perform

/-- Before the end was reported, a new scanner over the remaining characters accepts the checkpoint,
and has the same ahead of it then. -/
theorem exists_restored (h : first.Ready) (hook : Option (Hook σ)) (memory : σ) :
    ∃ turn, ({ start table first.cursor.unconsumed memory with hook }).restore first.checkpoint =
        .ok turn ∧ ({ first with hook, memory }).Resumes turn.scanner := by
  unfold restore setMode
  have hmode : first.checkpoint.mode < table.modeCount := first.mode_lt
  have hpast := Cursor.past_nil h.primed
  have hlookahead : first.cursor.unconsumed.head? = first.cursor.lookahead :=
    congrArg Cursor.lookahead hpast
  have hunread : first.cursor.unconsumed.tail = first.cursor.source.unread :=
    congrArg (fun cursor : Cursor => cursor.source.unread) hpast
  rw [dif_pos hmode]
  refine ⟨_, rfl, ?_, rfl, rfl⟩
  exact
    { mode_eq := rfl
      lookahead_eq := hlookahead
      unread_eq := hunread
      line_eq := rfl
      offset_eq := rfl
      exhausted_eq := h.live.symm }

end Scanner

namespace Transcript

variable {table : Table} {σ : Type}

/-- What the calls have told: the answer of each and what happened in it. -/
def told (transcript : Transcript table σ) : List (Answer × List Event) :=
  transcript.turns.map fun turn => (turn.value, turn.events)

/-- What was told is a part of what was seen. -/
theorem told_eq_observed (transcript : Transcript table σ) :
    transcript.told = transcript.observed.1.map fun seen => (seen.1, seen.2.1) := by
  rw [observed, List.map_map]
  rfl

/-- Two transcripts that told the same, with the same ahead of their scanners. -/
structure Resumes (first second : Transcript table σ) : Prop where
  /-- The same was told. -/
  told_eq : second.told = first.told
  /-- The same is ahead. -/
  scanner : first.scanner.Resumes second.scanner

variable {first second : Transcript table σ}

/-- A call that is recorded is told behind those before it. -/
theorem told_record (transcript : Transcript table σ) (turn : Turn table σ Answer) :
    (transcript.record turn).told = transcript.told ++ [(turn.value, turn.events)] := by
  simp only [told, record, List.map_append, List.map_cons, List.map_nil]

/-- A call more tells the same. -/
theorem Resumes.perform (h : first.Resumes second) (operation : Operation σ) :
    (first.perform operation).Resumes (second.perform operation) := by
  obtain ⟨hvalue, hevents, hscanner⟩ := h.scanner.perform operation
  by_cases hreset : ∃ input, operation = .reset input
  · obtain ⟨input, rfl⟩ := hreset
    exact ⟨rfl, hscanner⟩
  · have hne : ∀ input, operation ≠ .reset input := fun input heq => hreset ⟨input, heq⟩
    rw [perform_of_ne_reset first hne, perform_of_ne_reset second hne]
    refine ⟨?_, hscanner⟩
    rw [told_record, told_record, h.told_eq, hvalue, hevents]

/-- So do all calls. -/
theorem Resumes.play (h : first.Resumes second) (operations : List (Operation σ)) :
    (first.play operations).Resumes (second.play operations) := by
  induction operations generalizing first second with
  | nil => exact h
  | cons operation operations ih => exact ih (h.perform operation)

/-- At every point before the end of the input was reported, the checkpoint and the characters that
remain are all that the later calls depend on. A new scanner over these characters, with a hook that
acts as the old one does by now, accepts the checkpoint, and from there on every call, whatever it
is, tells what it tells the old scanner. -/
theorem told_play_restored (table : Table) (input : List Char) (memory : σ)
    (operations further : List (Operation σ)) (hook : Option (Hook σ)) (remembered : σ) :
    let transcript := (start table input memory).play operations
    let rest := transcript.scanner.cursor.unconsumed
    transcript.ended = false →
    table.HooksAlike transcript.scanner.hook transcript.scanner.memory hook remembered →
      ∃ turn, ({ Scanner.start table rest remembered with hook }).restore
          transcript.scanner.checkpoint = .ok turn ∧
        (play ⟨rest, [], turn.scanner⟩ further).told =
          (play ⟨rest, [], transcript.scanner⟩ further).told := by
  intro transcript rest hlive hhook
  obtain ⟨turn, hturn, hresumes⟩ := Scanner.exists_restored (ready_play hlive) hook remembered
  refine ⟨turn, hturn, ?_⟩
  -- in between stands the old scanner with the new hook
  let between : Scanner table σ := { transcript.scanner with hook, memory := remembered }
  have hbetween : Alike ⟨rest, [], transcript.scanner⟩ ⟨rest, [], between⟩ := ⟨rfl, rfl, hhook⟩
  have hrestored : Resumes ⟨rest, [], between⟩ ⟨rest, [], turn.scanner⟩ := ⟨rfl, hresumes⟩
  calc (play ⟨rest, [], turn.scanner⟩ further).told
      = (play ⟨rest, [], between⟩ further).told := (hrestored.play further).told_eq
    _ = (play ⟨rest, [], transcript.scanner⟩ further).told := by
      rw [told_eq_observed, told_eq_observed, (hbetween.play further).observed_eq]

/-- A scanner has dropped a literal that its line leaves open, in a line that it was told, and was
given a hook that has counted to 4. A new scanner over the two braces that remain goes on from there,
with a hook that has counted to 2. -/
theorem told_play_restored_everySecond :
    let transcript := (start Table.braces ['\x7b', '"', '\n', '\x7d', '\x7d', '\x7d'] 0).play
      [.setLine 7, .nextToken, .nextToken, .withHook everySecond 4]
    let rest := transcript.scanner.cursor.unconsumed
    let further : List (Operation Nat) := [.setOffset 9, .nextToken, .nextToken]
    (transcript.ended = false ∧ transcript.scanner.checkpoint = ⟨0, 8, 4⟩ ∧
        rest = ['\x7d', '\x7d']) ∧
      Table.braces.HooksAlike transcript.scanner.hook transcript.scanner.memory
        (some everySecond) 2 ∧
      (play ⟨rest, [], transcript.scanner⟩ further).told.map (fun call => call.1) =
        [.done, .token ⟨⟨3⟩, "\x7d", 10, 8⟩, .token ⟨.endOfInput, "", 11, 8⟩] ∧
      ∃ turn, ({ Scanner.start Table.braces rest 2 with hook := some everySecond }).restore
          transcript.scanner.checkpoint = .ok turn ∧
        (play ⟨rest, [], turn.scanner⟩ further).told =
          (play ⟨rest, [], transcript.scanner⟩ further).told := by
  intro transcript rest further
  have hlive : transcript.ended = false := by decide +kernel
  have heven : 2 % 2 = 4 % 2 := rfl
  have halike : Table.braces.HooksAlike transcript.scanner.hook transcript.scanner.memory
      (some everySecond) 2 := ⟨rfl, answers_everySecond heven⟩
  exact ⟨⟨hlive, by decide +kernel, by decide +kernel⟩, halike, by decide +kernel,
    told_play_restored Table.braces _ 0 _ further _ 2 hlive halike⟩

end Transcript

end ScanSchema
