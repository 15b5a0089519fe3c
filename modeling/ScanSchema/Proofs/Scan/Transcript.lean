import ScanSchema.Proofs.Scan.Round

/-!
# Transcripts of a scanner

What holds of every use of a scanner is said about transcripts. An `Operation` is one call,
`Scanner.perform` carries it out, and `Transcript.play` keeps what all calls since the start of the
input have brought. Only asking for a token moves through the input: `Transcript.play_induct` is the
induction over runs in these terms, with one case for a new input, one for asking and one for the
calls that leave the scanner where it is.
-/

namespace ScanSchema

/-- A token, unless it is that of the end. -/
def Token.unlessEnd (token : Token) : Option Token := if token.isEnd then none else some token

/-- One call of a scanner whose hooks have a memory of type `σ`. -/
inductive Operation (σ : Type) where
  /-- Ask for the next token. -/
  | nextToken
  /-- Ask for the next token, with nothing in place of the end of the input. -/
  | iterate
  /-- Change the mode. -/
  | setMode (mode : Nat)
  /-- Change the line counter. -/
  | setLine (line : Nat)
  /-- Change the offset counter. -/
  | setOffset (offset : Nat)
  /-- Ask for the mode and the position. -/
  | save
  /-- Put back a mode and a position. -/
  | restore (point : Checkpoint)
  /-- Set a hook, with what it remembers at first. -/
  | withHook (hook : Hook σ) (memory : σ)
  /-- Begin again on another input. -/
  | reset (input : List Char)

/-- Whether a call has to do with mode, position or hook only. -/
def Operation.tunes {σ : Type} : Operation σ → Bool
  | .nextToken | .iterate | .reset _ => false
  | _ => true

/-- The answer to a call. -/
inductive Answer where
  /-- The call was carried out. -/
  | done
  /-- The next token, which may be that of the end. -/
  | token (token : Token)
  /-- The next token, or nothing at the end. -/
  | item (token : Option Token)
  /-- A mode and a position. -/
  | saved (point : Checkpoint)
  /-- The call broke what it is promised, and changed nothing. -/
  | refused (misuse : Misuse)
  deriving DecidableEq, Repr

namespace Answer

/-- The token that an answer hands out; the end of the input is none. -/
def handed? : Answer → Option Token
  | .token next => next.unlessEnd
  | .item next? => next?
  | _ => none

/-- Whether an answer says that the input ended. -/
def endsInput : Answer → Bool
  | .token next => next.isEnd
  | .item next? => next?.isNone
  | _ => false

end Answer

/-- An answer to the question for the next token: it hands out that token, or says that the input
ended. -/
structure Answer.Reports (answer : Answer) (token : Token) : Prop where
  /-- A token other than the end is handed out. -/
  handed : answer.handed? = token.unlessEnd
  /-- The end is reported as such. -/
  ends : answer.endsInput = token.isEnd

/-- Two cursors at one place of the input: modes and positions may differ. -/
structure Cursor.SamePlace (before after : Cursor) : Prop where
  /-- The next character is the same. -/
  lookahead : after.lookahead = before.lookahead
  /-- So are all later ones. -/
  source : after.source = before.source
  /-- The text of the last token is the same. -/
  text : after.text = before.text
  /-- So is the line in which it began. -/
  tokenLine : after.tokenLine = before.tokenLine
  /-- The end of the input was reported to both or to none. -/
  exhausted : after.exhausted = before.exhausted

/-- A cursor is in its own place. -/
theorem Cursor.SamePlace.refl (cursor : Cursor) : cursor.SamePlace cursor :=
  ⟨rfl, rfl, rfl, rfl, rfl⟩

/-- At one place the same characters remain. -/
theorem Cursor.SamePlace.unconsumed {before after : Cursor} (h : before.SamePlace after) :
    after.unconsumed = before.unconsumed := by
  rw [Cursor.unconsumed, Cursor.unconsumed, h.lookahead, h.source]

/-- The next character is still at hand in the same place. -/
theorem Cursor.SamePlace.primed {before after : Cursor} (h : before.SamePlace after)
    (hprimed : before.Primed) : after.Primed := by
  intro hnone
  rw [h.source]
  exact hprimed (h.lookahead ▸ hnone)

namespace Scanner

variable {table : Table} {σ : Type}

/-- The answer to a call with an argument in range, or the refusal of the call. -/
def attempted (scanner : Scanner table σ) : Except Misuse (Turn table σ Unit) → Turn table σ Answer
  | .ok turn => { turn with value := .done }
  | .error misuse => ⟨.refused misuse, [], scanner⟩

/-- Carry out one call. -/
def perform (scanner : Scanner table σ) : Operation σ → Turn table σ Answer
  | .nextToken => { scanner.nextToken with value := .token scanner.nextToken.value }
  | .iterate => { scanner.nextToken? with value := .item scanner.nextToken?.value }
  | .setMode mode => scanner.attempted (scanner.setMode mode)
  | .setLine line => ⟨.done, [], scanner.setLine line⟩
  | .setOffset offset => ⟨.done, [], scanner.setOffset offset⟩
  | .save => ⟨.saved scanner.checkpoint, [], scanner⟩
  | .restore point => scanner.attempted (scanner.restore point)
  | .withHook hook memory => ⟨.done, [], scanner.withHook hook memory⟩
  | .reset input => ⟨.done, [], scanner.reset input⟩

/-- What a call brings that leaves the scanner where it is: at most the mode was set on the way, and
no token is handed out. -/
structure Tunes (scanner : Scanner table σ) (turn : Turn table σ Answer) : Prop where
  /-- The place is the same. -/
  place : scanner.cursor.SamePlace turn.scanner.cursor
  /-- Nothing else happened. -/
  events : ∀ event ∈ turn.events, ∃ before after, event = .modeSet before after
  /-- No token is handed out. -/
  handed : turn.value.handed? = none
  /-- The end of the input is not reported. -/
  ends : turn.value.endsInput = false

/-- The three kinds of calls. -/
inductive Performed (scanner : Scanner table σ) : Operation σ → Turn table σ Answer → Prop where
  /-- The scanner was asked for a token. -/
  | asked {operation : Operation σ} (answer : Answer)
    (hanswer : answer.Reports scanner.nextToken.value) :
    Performed scanner operation { scanner.nextToken with value := answer }
  /-- Mode, position or hook were changed, or looked at. -/
  | tuned {operation : Operation σ} (turn : Turn table σ Answer) (h : scanner.Tunes turn) :
    Performed scanner operation turn
  /-- The scanner began again. -/
  | begun (input : List Char) : Performed scanner (.reset input) ⟨.done, [], scanner.reset input⟩

/-- Setting a mode, or failing to, leaves the scanner where it is. -/
theorem tunes_setMode (scanner : Scanner table σ) (mode : Nat) :
    scanner.Tunes (scanner.attempted (scanner.setMode mode)) := by
  unfold setMode
  by_cases hmode : mode < table.modeCount
  · rw [dif_pos hmode]
    refine ⟨⟨rfl, rfl, rfl, rfl, rfl⟩, ?_, rfl, rfl⟩
    intro event hevent
    exact ⟨scanner.cursor.mode, mode, List.mem_singleton.mp hevent⟩
  · rw [dif_neg hmode]
    exact ⟨.refl _, fun event hevent => absurd hevent List.not_mem_nil, rfl, rfl⟩

/-- So does putting back a mode and a position: no character is unread. -/
theorem tunes_restore (scanner : Scanner table σ) (point : Checkpoint) :
    scanner.Tunes (scanner.attempted (scanner.restore point)) := by
  have hmode := scanner.tunes_setMode point.mode
  unfold restore
  cases hset : scanner.setMode point.mode with
  | error misuse => exact ⟨.refl _, fun event hevent => absurd hevent List.not_mem_nil, rfl, rfl⟩
  | ok turn =>
    rw [hset] at hmode
    obtain ⟨⟨hlookahead, hsource, htext, htokenLine, hexhausted⟩, hevents, -, -⟩ := hmode
    exact ⟨⟨hlookahead, hsource, htext, htokenLine, hexhausted⟩, hevents, rfl, rfl⟩

/-- Asking with nothing in place of the end reports the same token. -/
theorem reports_nextToken? (scanner : Scanner table σ) :
    (Answer.item scanner.nextToken?.value).Reports scanner.nextToken.value := by
  refine ⟨rfl, ?_⟩
  rw [nextToken?]
  cases scanner.nextToken.value.isEnd with
  | true => rfl
  | false => rfl

/-- Every call that has to do with mode, position or hook only leaves the scanner where it is. -/
theorem tunes_perform (scanner : Scanner table σ) {operation : Operation σ}
    (h : operation.tunes = true) : scanner.Tunes (scanner.perform operation) := by
  have hquiet : ∀ (answer : Answer) (after : Scanner table σ),
      scanner.cursor.SamePlace after.cursor → answer.handed? = none → answer.endsInput = false →
        scanner.Tunes ⟨answer, [], after⟩ := fun answer after hplace hhanded hends =>
    ⟨hplace, fun event hevent => absurd hevent List.not_mem_nil, hhanded, hends⟩
  cases operation with
  | setMode mode => exact scanner.tunes_setMode mode
  | setLine line => exact hquiet _ _ ⟨rfl, rfl, rfl, rfl, rfl⟩ rfl rfl
  | setOffset offset => exact hquiet _ _ ⟨rfl, rfl, rfl, rfl, rfl⟩ rfl rfl
  | save => exact hquiet _ _ (.refl _) rfl rfl
  | restore point => exact scanner.tunes_restore point
  | withHook hook memory => exact hquiet _ _ (.refl _) rfl rfl
  | nextToken => cases h
  | iterate => cases h
  | reset input => cases h

/-- Every call is of one of the three kinds. -/
theorem performed_perform (scanner : Scanner table σ) (operation : Operation σ) :
    scanner.Performed operation (scanner.perform operation) := by
  cases operation with
  | nextToken => exact .asked (.token scanner.nextToken.value) ⟨rfl, rfl⟩
  | iterate => exact .asked (.item scanner.nextToken?.value) scanner.reports_nextToken?
  | reset input => exact .begun input
  | _ => exact .tuned _ (scanner.tunes_perform rfl)

end Scanner

/-- What a scanner was given and what it has brought since its input began. -/
structure Transcript (table : Table) (σ : Type) where
  /-- The whole input. -/
  input : List Char
  /-- What every call since has brought, the first one first. -/
  turns : List (Turn table σ Answer)
  /-- The scanner now. -/
  scanner : Scanner table σ

namespace Transcript

variable {table : Table} {σ : Type}

/-- The transcript of a new scanner. -/
def start (table : Table) (input : List Char) (memory : σ) : Transcript table σ :=
  ⟨input, [], .start table input memory⟩

/-- Add what a call has brought. -/
def record (transcript : Transcript table σ) (turn : Turn table σ Answer) : Transcript table σ :=
  ⟨transcript.input, transcript.turns ++ [turn], turn.scanner⟩

/-- Carry out one call. A reset begins a new transcript. -/
def perform (transcript : Transcript table σ) (operation : Operation σ) : Transcript table σ :=
  match operation with
  | .reset input => ⟨input, [], transcript.scanner.reset input⟩
  | operation => transcript.record (transcript.scanner.perform operation)

/-- Carry out some calls in turn. -/
def play (transcript : Transcript table σ) (operations : List (Operation σ)) :
    Transcript table σ :=
  operations.foldl perform transcript

/-- Every call but a reset is recorded. -/
theorem perform_of_ne_reset (transcript : Transcript table σ) {operation : Operation σ}
    (h : ∀ input, operation ≠ .reset input) :
    transcript.perform operation = transcript.record (transcript.scanner.perform operation) := by
  cases operation with
  | reset input => exact absurd rfl (h input)
  | _ => rfl

/-- Whether the end of the input was reported. -/
def ended (transcript : Transcript table σ) : Bool :=
  transcript.turns.any (·.value.endsInput)

/-- The end is reported by the calls so far or by the one that is added. -/
theorem ended_record (transcript : Transcript table σ) (turn : Turn table σ Answer) :
    (transcript.record turn).ended = (transcript.ended || turn.value.endsInput) := by
  simp only [ended, record, List.any_append, List.any_cons, List.any_nil, Bool.or_false]

/-- What holds at the start of every input, and is kept by asking for a token and by the calls that
leave the scanner where it is, holds after all calls. -/
theorem play_induct {motive : Transcript table σ → Prop}
    (began : ∀ (input : List Char) (scanner : Scanner table σ), scanner.cursor = .start input →
      motive ⟨input, [], scanner⟩)
    (asked : ∀ (transcript : Transcript table σ) (answer : Answer),
      answer.Reports transcript.scanner.nextToken.value → motive transcript →
        motive (transcript.record { transcript.scanner.nextToken with value := answer }))
    (tuned : ∀ (transcript : Transcript table σ) (turn : Turn table σ Answer),
      transcript.scanner.Tunes turn → motive transcript → motive (transcript.record turn))
    (input : List Char) (memory : σ) (operations : List (Operation σ)) :
    motive ((start table input memory).play operations) := by
  have hstep : ∀ (transcript : Transcript table σ) (operation : Operation σ),
      motive transcript → motive (transcript.perform operation) := by
    intro transcript operation h
    by_cases hreset : ∃ input, operation = .reset input
    · obtain ⟨input, rfl⟩ := hreset
      exact began input _ rfl
    · have hperformed := transcript.scanner.performed_perform operation
      rw [perform_of_ne_reset transcript fun input heq => hreset ⟨input, heq⟩]
      generalize transcript.scanner.perform operation = turn at hperformed ⊢
      cases hperformed with
      | asked answer hanswer => exact asked transcript answer hanswer h
      | tuned turn hturn => exact tuned transcript turn hturn h
      | begun input => exact absurd ⟨input, rfl⟩ hreset
  have hrun : ∀ transcript : Transcript table σ, motive transcript →
      motive (transcript.play operations) := by
    induction operations with
    | nil => exact fun _ h => h
    | cons operation operations ih =>
      exact fun transcript h => ih (transcript.perform operation) (hstep transcript operation h)
  exact hrun _ (began input _ rfl)

/-- The next character is at hand after all calls. -/
theorem primed_play (input : List Char) (memory : σ) (operations : List (Operation σ)) :
    ((start table input memory).play operations).scanner.cursor.Primed := by
  refine play_induct (motive := fun transcript => transcript.scanner.cursor.Primed)
    ?began ?asked ?tuned input memory operations
  case began =>
    intro input scanner hcursor
    dsimp only
    rw [hcursor]
    exact Cursor.primed_start input
  case asked => exact fun _ _ _ h => Scanner.primed_nextToken h
  case tuned => exact fun _ _ hturn h => hturn.place.primed h

/-- A scanner is marked as exhausted exactly if it has reported the end of its input. -/
theorem exhausted_play (input : List Char) (memory : σ) (operations : List (Operation σ)) :
    ((start table input memory).play operations).scanner.cursor.exhausted =
      ((start table input memory).play operations).ended := by
  refine (play_induct (motive := fun transcript => transcript.scanner.cursor.Primed ∧
    transcript.scanner.cursor.exhausted = transcript.ended)
    ?began ?asked ?tuned input memory operations).2
  case began =>
    intro input scanner hcursor
    dsimp only
    rw [hcursor]
    exact ⟨Cursor.primed_start input, rfl⟩
  case asked =>
    intro transcript answer hanswer h
    obtain ⟨hprimed, hended⟩ := h
    refine ⟨Scanner.primed_nextToken hprimed, ?_⟩
    rw [ended_record, hanswer.ends, ← hended]
    refine (Scanner.exhausted_nextToken hprimed).trans ?_
    cases hexhausted : transcript.scanner.cursor.exhausted with
    | true =>
      rw [Scanner.nextToken_of_exhausted hexhausted]
      rfl
    | false => rfl
  case tuned =>
    intro transcript turn hturn h
    obtain ⟨hprimed, hended⟩ := h
    refine ⟨hturn.place.primed hprimed, ?_⟩
    rw [ended_record, hturn.ends, Bool.or_false, ← hended]
    exact hturn.place.exhausted

/-- Before the end was reported the scanner may go on. -/
theorem ready_play {input : List Char} {memory : σ} {operations : List (Operation σ)}
    (h : ((start table input memory).play operations).ended = false) :
    ((start table input memory).play operations).scanner.Ready :=
  ⟨primed_play input memory operations, (exhausted_play input memory operations).trans h⟩

end Transcript

end ScanSchema
