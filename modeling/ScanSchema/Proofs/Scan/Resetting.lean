import ScanSchema.Proofs.Scan.Tokenizer
import ScanSchema.Proofs.Scan.Transcript

/-!
# Scanners that cannot be told apart

A caller sees the answer of every call, what happens on the way and where the cursor is. What the
hook remembers is not seen, only its answers are. `Scanner.Alike` relates two scanners at the same
cursor with hooks that would give the same answers to all tokens to come. Every call keeps scanners
alike, and so no calls whatsoever tell them apart. A scanner that is reset is alike to a new one, in
whatever state it was.
-/

namespace ScanSchema

/-- What a predicate answers when it is asked about some tokens in turn. -/
def Hook.answers {σ : Type} (keep : Hook σ) (memory : σ) : List Token → List Bool
  | [] => []
  | token :: rest => (keep memory token).1 :: answers keep (keep memory token).2 rest

/-- Two hooks, each with what it remembers, act the same: both are there or none is, and whatever
tokens are to come, both keep the same ones. -/
structure Table.HooksAlike (table : Table) {σ : Type} (first : Option (Hook σ)) (firstMemory : σ)
    (second : Option (Hook σ)) (secondMemory : σ) : Prop where
  /-- There is a second one if there is a first one. -/
  isSome_eq : second.isSome = first.isSome
  /-- They give the same answers. -/
  answers_eq : ∀ tokens, (table.keeper second).answers secondMemory tokens =
    (table.keeper first).answers firstMemory tokens

/-- A hook acts like itself. -/
theorem Table.HooksAlike.refl (table : Table) {σ : Type} (hook : Option (Hook σ)) (memory : σ) :
    table.HooksAlike hook memory hook memory := ⟨rfl, fun _ => rfl⟩

namespace Scanner

variable {table : Table} {σ α : Type} {first second : Scanner table σ}

/-- Two scanners are alike if they stand at one place in one state, with hooks that act the same. -/
structure Alike (first second : Scanner table σ) : Prop where
  /-- The cursors are the same. -/
  cursor_eq : second.cursor = first.cursor
  /-- The hooks act the same. -/
  hooks : table.HooksAlike first.hook first.memory second.hook second.memory

/-- Two calls are alike if they bring the same and leave the scanners alike. -/
structure TurnsAlike (first second : Turn table σ α) : Prop where
  /-- The answers are the same. -/
  value_eq : second.value = first.value
  /-- The same happened on the way. -/
  events_eq : second.events = first.events
  /-- The scanners are alike afterwards. -/
  scanner : first.scanner.Alike second.scanner

/-- Asking about a token shows it to the hook, if there is one, and changes what the predicate
remembers. -/
theorem judge_eq (scanner : Scanner table σ) (token : Token) :
    scanner.judge token =
      ⟨(table.keeper scanner.hook scanner.memory token).1,
        if scanner.hook.isSome then [.shown token] else [],
        { scanner with memory := (table.keeper scanner.hook scanner.memory token).2 }⟩ := by
  obtain ⟨cursor, mode_lt, hook, memory⟩ := scanner
  cases hook <;> rfl

/-- Asked about the same token, alike scanners give the same answer. -/
theorem Alike.judge (h : first.Alike second) (token : Token) :
    TurnsAlike (first.judge token) (second.judge token) := by
  have hanswers : ∀ tokens, (table.keeper second.hook).answers second.memory (token :: tokens) =
      (table.keeper first.hook).answers first.memory (token :: tokens) :=
    fun tokens => h.hooks.answers_eq (token :: tokens)
  rw [judge_eq, judge_eq]
  refine ⟨(List.cons.inj (hanswers [])).1, ?_, h.cursor_eq, h.hooks.isSome_eq, fun tokens => ?_⟩
  · dsimp only
    rw [h.hooks.isSome_eq]
  · exact (List.cons.inj (hanswers tokens)).2

section Round

/-- Alike scanners make the same attempt. -/
theorem Alike.attempt_eq (h : first.Alike second) : second.attempt = first.attempt := by
  rw [attempt, attempt, h.cursor_eq]

/-- Alike scanners are alike behind their next attempts. -/
theorem Alike.moved (h : first.Alike second) : first.moved.Alike second.moved :=
  ⟨congrArg Attempt.cursor h.attempt_eq, h.hooks⟩

/-- They are alike once the end was reported to both. -/
theorem Alike.exhaust (h : first.Alike second) : first.exhaust.Alike second.exhaust :=
  ⟨congrArg (fun cursor : Cursor => { cursor with exhausted := true }) h.cursor_eq, h.hooks⟩

/-- They look the same up. -/
theorem Alike.looked_eq (h : first.Alike second) : second.looked = first.looked :=
  congrArg (fun attempt : Attempt => attempt.lookups.map Event.looked) h.attempt_eq

/-- They report the end in the same place. -/
theorem Alike.endToken_eq (h : first.Alike second) : second.endToken = first.endToken :=
  congrArg (fun cursor : Cursor => Token.endOfInput cursor.offset cursor.line) h.cursor_eq

/-- They report the same errors. -/
theorem Alike.errorHere_eq (h : first.Alike second) (fault : LexicalFault) :
    second.errorHere fault = first.errorHere fault :=
  congrArg (fun cursor : Cursor => LexicalError.mk cursor.offset cursor.line fault) h.cursor_eq

/-- They drop the same texts. -/
theorem Alike.rejected_eq (h : first.Alike second) : second.rejected = first.rejected :=
  congrArg (fun cursor : Cursor => LexicalFault.invalidToken cursor.line cursor.text)
    h.moved.cursor_eq

/-- They match the same tokens. -/
theorem Alike.candidate_eq (h : first.Alike second) (lexeme : Nat) :
    second.candidate lexeme = first.candidate lexeme := by
  rw [candidate, candidate, h.moved.cursor_eq, h.cursor_eq]

/-- Their hooks say the same about a token. -/
theorem Alike.judged (h : first.Alike second) (lexeme : Nat) :
    TurnsAlike (first.judged lexeme) (second.judged lexeme) := by
  rw [Scanner.judged, Scanner.judged, h.candidate_eq]
  exact h.moved.judge _

/-- One attempt of two alike scanners brings the same. -/
theorem Alike.round (h : first.Alike second) : TurnsAlike first.round second.round := by
  have hrounds := first.rounds_round
  generalize first.round = turn at hrounds ⊢
  cases hrounds with
  | endOfInput hstop =>
    rw [round_of_endOfInput (h.attempt_eq ▸ hstop)]
    exact ⟨congrArg some h.endToken_eq, h.looked_eq, h.moved.exhaust⟩
  | unexpectedEnd hstop =>
    rw [round_of_unexpectedEnd (h.attempt_eq ▸ hstop), h.looked_eq, h.errorHere_eq, h.endToken_eq]
    exact ⟨rfl, rfl, h.moved.exhaust⟩
  | invalid hstop =>
    rw [round_of_invalid (h.attempt_eq ▸ hstop), h.looked_eq, h.errorHere_eq, h.rejected_eq]
    exact ⟨rfl, rfl, h.moved⟩
  | kept lexeme hstop hkept =>
    obtain ⟨hvalue, hevents, hscanner⟩ := h.judged lexeme
    rw [round_of_kept (h.attempt_eq ▸ hstop) (hvalue.trans hkept), h.looked_eq, h.candidate_eq,
      hevents]
    exact ⟨rfl, rfl, hscanner⟩
  | dropped lexeme hstop hdropped =>
    obtain ⟨hvalue, hevents, hscanner⟩ := h.judged lexeme
    rw [round_of_dropped (h.attempt_eq ▸ hstop) (hvalue.trans hdropped), h.looked_eq,
      h.candidate_eq, hevents]
    exact ⟨rfl, rfl, hscanner⟩

end Round

/-- A call brings the same to two alike scanners. -/
theorem Alike.nextToken (h : first.Alike second) :
    TurnsAlike first.nextToken second.nextToken := by
  have hround : ∀ first second : Scanner table σ, first.Alike second →
      TurnsRelated Alike first.round second.round := fun _ _ h =>
    ⟨h.round.value_eq, h.round.events_eq, h.round.scanner⟩
  obtain ⟨hvalue, hevents, hscanner⟩ :=
    nextToken_related (fun _ _ h => congrArg Cursor.exhausted h.cursor_eq)
      (fun _ _ h => h.endToken_eq) hround h
  exact ⟨hvalue, hevents, hscanner⟩

section Perform

/-- Setting a mode is refused by both of two alike scanners or carried out by both. -/
theorem Alike.attempted_setMode (h : first.Alike second) (mode : Nat) :
    TurnsAlike (first.attempted (first.setMode mode)) (second.attempted (second.setMode mode)) := by
  unfold setMode
  by_cases hmode : mode < table.modeCount
  · rw [dif_pos hmode, dif_pos hmode]
    refine ⟨rfl, ?_, congrArg (fun cursor : Cursor => { cursor with mode }) h.cursor_eq, h.hooks⟩
    exact congrArg (fun cursor : Cursor => [Event.modeSet cursor.mode mode]) h.cursor_eq
  · rw [dif_neg hmode, dif_neg hmode]
    exact ⟨rfl, rfl, h⟩

/-- So is putting back a mode and a position. -/
theorem Alike.attempted_restore (h : first.Alike second) (point : Checkpoint) :
    TurnsAlike (first.attempted (first.restore point))
      (second.attempted (second.restore point)) := by
  unfold restore setMode
  by_cases hmode : point.mode < table.modeCount
  · rw [dif_pos hmode, dif_pos hmode]
    refine ⟨rfl, ?_, ?_, h.hooks⟩
    · exact congrArg (fun cursor : Cursor => [Event.modeSet cursor.mode point.mode]) h.cursor_eq
    · exact congrArg (fun cursor : Cursor =>
        { cursor with mode := point.mode, line := point.line, offset := point.offset }) h.cursor_eq
  · rw [dif_neg hmode, dif_neg hmode]
    exact ⟨rfl, rfl, h⟩

/-- No call tells two alike scanners apart, and they stay alike. -/
theorem Alike.perform (h : first.Alike second) (operation : Operation σ) :
    TurnsAlike (first.perform operation) (second.perform operation) := by
  obtain ⟨hvalue, hevents, hscanner⟩ := h.nextToken
  cases operation with
  | nextToken => exact ⟨congrArg Answer.token hvalue, hevents, hscanner⟩
  | iterate =>
    refine ⟨?_, hevents, hscanner⟩
    exact congrArg (fun token : Token =>
      Answer.item (if token.isEnd then none else some token)) hvalue
  | setMode mode => exact h.attempted_setMode mode
  | setLine line =>
    exact ⟨rfl, rfl, congrArg (fun cursor : Cursor => { cursor with line }) h.cursor_eq, h.hooks⟩
  | setOffset offset =>
    exact ⟨rfl, rfl, congrArg (fun cursor : Cursor => { cursor with offset }) h.cursor_eq, h.hooks⟩
  | save =>
    exact ⟨congrArg (fun cursor : Cursor => Answer.saved cursor.checkpoint) h.cursor_eq, rfl, h⟩
  | restore point => exact h.attempted_restore point
  | withHook hook memory => exact ⟨rfl, rfl, h.cursor_eq, .refl _ _ _⟩
  | reset input => exact ⟨rfl, rfl, rfl, h.hooks⟩

end Perform

end Scanner

namespace Transcript

variable {table : Table} {σ : Type}

/-- What a caller sees of some calls: the answer of each, what happened in it and where it left the
cursor, and where the cursor is now. -/
def observed (transcript : Transcript table σ) :
    List (Answer × List Event × Cursor) × Cursor :=
  (transcript.turns.map fun turn => (turn.value, turn.events, turn.scanner.cursor),
    transcript.scanner.cursor)

/-- Two transcripts are alike if the same was seen and the scanners are alike now. -/
structure Alike (first second : Transcript table σ) : Prop where
  /-- The calls looked the same. -/
  observed_eq : second.observed = first.observed
  /-- The scanners are alike. -/
  scanner : first.scanner.Alike second.scanner

variable {first second : Transcript table σ}

/-- A call that is recorded is seen behind those before it. -/
theorem observed_record (transcript : Transcript table σ) (turn : Turn table σ Answer) :
    (transcript.record turn).observed =
      (transcript.observed.1 ++ [(turn.value, turn.events, turn.scanner.cursor)],
        turn.scanner.cursor) := by
  simp only [observed, record, List.map_append, List.map_cons, List.map_nil]

/-- A call more keeps transcripts alike. -/
theorem Alike.perform (h : first.Alike second) (operation : Operation σ) :
    (first.perform operation).Alike (second.perform operation) := by
  by_cases hreset : ∃ input, operation = .reset input
  · obtain ⟨input, rfl⟩ := hreset
    exact ⟨rfl, rfl, h.scanner.hooks⟩
  · have hne : ∀ input, operation ≠ .reset input := fun input heq => hreset ⟨input, heq⟩
    obtain ⟨hvalue, hevents, hscanner⟩ := h.scanner.perform operation
    rw [perform_of_ne_reset first hne, perform_of_ne_reset second hne]
    refine ⟨?_, hscanner⟩
    rw [observed_record, observed_record, h.observed_eq, hvalue, hevents, hscanner.cursor_eq]

/-- So do all calls. -/
theorem Alike.play (h : first.Alike second) (operations : List (Operation σ)) :
    (first.play operations).Alike (second.play operations) := by
  induction operations generalizing first second with
  | nil => exact h
  | cons operation operations ih => exact ih (h.perform operation)

/-- Whatever was done before a reset, no calls tell the scanner apart from a new one that is given a
hook which acts as the old one does by now, in particular that hook itself in its present state. -/
theorem observed_play_reset (transcript : Transcript table σ) (input : List Char)
    (hook : Option (Hook σ)) (memory : σ) (operations : List (Operation σ))
    (hhook : table.HooksAlike hook memory transcript.scanner.hook transcript.scanner.memory) :
    ((transcript.perform (.reset input)).play operations).observed =
      (play ⟨input, [], { Scanner.start table input memory with hook }⟩ operations).observed := by
  have hbegun : Alike ⟨input, [], { Scanner.start table input memory with hook }⟩
      (transcript.perform (.reset input)) := ⟨rfl, rfl, hhook⟩
  exact (hbegun.play operations).observed_eq

/-- A hook that keeps every second token, and counts the tokens that it was asked about. -/
def everySecond : Hook Nat := fun count _ => (count % 2 == 1, count + 1)

/-- It acts on whether the count is odd, and on nothing else. -/
theorem answers_everySecond {count other : Nat} (h : count % 2 = other % 2) (tokens : List Token) :
    everySecond.answers count tokens = everySecond.answers other tokens := by
  induction tokens generalizing count other with
  | nil => rfl
  | cons token rest ih =>
    have hnext : (count + 1) % 2 = (other + 1) % 2 := by omega
    have hanswer : (everySecond count token).1 = (everySecond other token).1 :=
      congrArg (fun parity => parity == 1) h
    rw [Hook.answers, Hook.answers, hanswer]
    exact congrArg (List.cons _) (ih hnext)

/-- A scanner has met the end in a line that it was told, and was given a hook that has counted to
3. Reset, it is not told apart from a new one with a hook that has counted to 1. -/
theorem observed_play_reset_everySecond :
    let transcript := (start Table.braces ['\x7b', '\n', '\x7d'] 0).play
      [.setLine 7, .nextToken, .nextToken, .nextToken, .withHook everySecond 3]
    let fresh : Scanner Table.braces Nat :=
      { Scanner.start Table.braces ['\x7b', '\x7d'] 1 with hook := some everySecond }
    let operations : List (Operation Nat) := [.nextToken, .save, .nextToken]
    (transcript.scanner.cursor.exhausted = true ∧ transcript.scanner.cursor.line = 8) ∧
      Table.braces.HooksAlike (some everySecond) 1 transcript.scanner.hook
        transcript.scanner.memory ∧
      (play ⟨['\x7b', '\x7d'], [], fresh⟩ operations).observed.1.map (fun seen => seen.1) =
        [.token ⟨⟨1⟩, "\x7b", 0, 1⟩, .saved ⟨0, 1, 1⟩, .token ⟨.endOfInput, "", 2, 1⟩] ∧
      ((transcript.perform (.reset ['\x7b', '\x7d'])).play operations).observed =
        (play ⟨['\x7b', '\x7d'], [], fresh⟩ operations).observed := by
  intro transcript fresh operations
  have hodd : 3 % 2 = 1 % 2 := rfl
  have halike : Table.braces.HooksAlike (some everySecond) 1 transcript.scanner.hook
      transcript.scanner.memory := ⟨rfl, answers_everySecond hodd⟩
  exact ⟨by decide +kernel, halike, by decide +kernel,
    observed_play_reset transcript _ _ _ operations halike⟩

end Transcript

end ScanSchema
