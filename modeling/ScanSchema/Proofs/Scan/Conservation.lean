import ScanSchema.Proofs.Scan.Transcript

/-!
# Where the characters of an input are

Every attempt that does not end the input finishes a text: a token that is handed out or dropped, or
an invalid text that is reported. These texts together with what the scanner still holds are the
input, in order, after all calls: `Transcript.input_eq_finished_append`. A round shows why, and the
statement is carried from there through calls and transcripts.
-/

namespace ScanSchema

/-- The text that an event is done with: an invalid text, or that of a dropped token. -/
def Event.finished? : Event → Option String
  | .failed ⟨_, _, .invalidToken _ text⟩ => some text
  | .dropped token => some token.text
  | _ => none

/-- The texts that are done with after some events and a token that is handed out behind them. -/
def finishedTexts (events : List Event) (handed : Option Token) : List String :=
  events.filterMap Event.finished? ++ handed.toList.map (·.text)

/-- Texts are finished in the order of the events, and the token handed out comes last. -/
theorem finishedTexts_append (front back : List Event) (handed : Option Token) :
    finishedTexts (front ++ back) handed = finishedTexts front none ++ finishedTexts back handed := by
  rw [finishedTexts, finishedTexts, finishedTexts, List.filterMap_append, Option.toList_none,
    List.map_nil, List.append_nil, List.append_assoc]

/-- Where no event finishes a text, only the token handed out is finished. -/
theorem finishedTexts_of_forall_eq_none {events : List Event}
    (h : ∀ event ∈ events, event.finished? = none) (handed : Option Token) :
    finishedTexts events handed = handed.toList.map (·.text) := by
  rw [finishedTexts, List.filterMap_eq_nil_iff.mpr h, List.nil_append]

namespace Scanner

variable {table : Table} {σ : Type} {scanner : Scanner table σ}

/-- What a scanner still holds: the text in which the input ended, if it did, and all characters
that are not consumed. -/
def held (scanner : Scanner table σ) : List Char :=
  (if scanner.cursor.exhausted then scanner.cursor.text.toList else []) ++ scanner.cursor.unconsumed

/-- Before the end a scanner holds what is not consumed. -/
theorem held_of_ready (h : scanner.Ready) : scanner.held = scanner.cursor.unconsumed := by
  rw [held, h.live]
  rfl

/-- Looking up an outcome finishes nothing. -/
theorem finished?_looked {event : Event} (h : event ∈ scanner.looked) : event.finished? = none := by
  obtain ⟨lookup, _, rfl⟩ := List.mem_map.mp h
  rfl

/-- Asking whether a token is kept finishes nothing yet. -/
theorem finished?_judged {lexeme : Nat} {event : Event} (h : event ∈ (scanner.judged lexeme).events) :
    event.finished? = none := by
  unfold judged judge at h
  split at h
  next => exact absurd h List.not_mem_nil
  next =>
    rw [List.mem_singleton.mp h]
    rfl

/-- A round finishes the text that its way consumes, unless the way ends the input. -/
theorem finishedTexts_round (h : scanner.Ready) :
    finishedTexts scanner.round.events (scanner.round.value.bind Token.unlessEnd) =
      if scanner.way.stop.endsInput then [] else [String.ofList scanner.way.consumed] := by
  have hlooked : ∀ handed, finishedTexts scanner.looked handed = handed.toList.map (·.text) :=
    finishedTexts_of_forall_eq_none fun _ => finished?_looked
  have hjudged : ∀ lexeme handed, finishedTexts (scanner.judged lexeme).events handed =
      handed.toList.map (·.text) := fun lexeme =>
    finishedTexts_of_forall_eq_none fun _ => finished?_judged
  rw [← text_moved h.primed, ← stop_attempt h.primed]
  have hrounds := scanner.rounds_round
  generalize scanner.round = turn at hrounds ⊢
  cases hrounds with
  | endOfInput hstop =>
    rw [hstop]
    exact hlooked none
  | unexpectedEnd hstop =>
    rw [hstop, finishedTexts_append, hlooked]
    rfl
  | invalid hstop =>
    rw [hstop, finishedTexts_append, hlooked]
    rfl
  | kept lexeme hstop =>
    have hkept : (scanner.candidate lexeme).unlessEnd = some (scanner.candidate lexeme) :=
      if_neg (Bool.eq_false_iff.mp (isEnd_candidate h.primed hstop))
    rw [hstop, finishedTexts_append, hlooked, hjudged, Option.bind_some, hkept]
    rfl
  | dropped lexeme hstop =>
    rw [hstop, finishedTexts_append, finishedTexts_append, hlooked, hjudged]
    rfl

/-- The texts that a round finishes and what the scanner holds behind it are the characters that
remained before. -/
theorem finished_append_held_round (h : scanner.Ready) :
    (finishedTexts scanner.round.events (scanner.round.value.bind Token.unlessEnd)).flatMap
        String.toList ++ scanner.round.scanner.held = scanner.held := by
  have hexhausted : scanner.round.scanner.cursor.exhausted = scanner.way.stop.endsInput := by
    rw [cursor_round h]
  rw [finishedTexts_round h, held, hexhausted, text_round h, String.toList_ofList,
    held_of_ready h, ← consumed_append_unconsumed_round h]
  cases scanner.way.stop.endsInput with
  | true => rfl
  | false =>
    rw [if_neg Bool.false_ne_true, if_neg Bool.false_ne_true, List.flatMap_singleton,
      String.toList_ofList, List.nil_append]

/-- The texts that a call finishes and what the scanner holds behind it are what it held before. -/
theorem finished_append_held_nextToken (h : scanner.cursor.Primed) :
    (finishedTexts scanner.nextToken.events scanner.nextToken.value.unlessEnd).flatMap
        String.toList ++ scanner.nextToken.scanner.held = scanner.held := by
  revert h
  refine nextToken_induct (motive := fun scanner turn => scanner.cursor.Primed →
    (finishedTexts turn.events turn.value.unlessEnd).flatMap String.toList ++ turn.scanner.held =
      scanner.held) ?exhausted ?answered ?continued scanner
  case exhausted => exact fun _ _ _ => rfl
  case answered =>
    intro scanner token hlive hround hprimed
    have hfinished := finished_append_held_round ⟨hprimed, hlive⟩
    rw [hround] at hfinished
    exact hfinished
  case continued =>
    intro scanner hlive hround ih hprimed
    have hready : scanner.Ready := ⟨hprimed, hlive⟩
    have hfinished := finished_append_held_round hready
    have hrest := ih (primed_round hready)
    rw [hround, Option.bind_none] at hfinished
    rw [finishedTexts_append, List.flatMap_append, List.append_assoc, hrest, hfinished]

end Scanner

namespace Transcript

variable {table : Table} {σ : Type}

/-- The texts that are done with: tokens handed out and dropped, and invalid texts, in order. -/
def finished (transcript : Transcript table σ) : List String :=
  transcript.turns.flatMap fun turn => finishedTexts turn.events turn.value.handed?

/-- What a call finishes comes behind what was finished before. -/
theorem finished_record (transcript : Transcript table σ) (turn : Turn table σ Answer) :
    (transcript.record turn).finished =
      transcript.finished ++ finishedTexts turn.events turn.value.handed? := by
  rw [finished, record, List.flatMap_append, List.flatMap_singleton]
  rfl

/-- After all calls the input is made of the finished texts and of what the scanner holds. -/
theorem input_eq_finished_append_held (input : List Char) (memory : σ)
    (operations : List (Operation σ)) :
    let transcript := (start table input memory).play operations
    transcript.input =
      transcript.finished.flatMap String.toList ++ transcript.scanner.held := by
  refine (play_induct (motive := fun transcript => transcript.scanner.cursor.Primed ∧
    transcript.input = transcript.finished.flatMap String.toList ++ transcript.scanner.held)
    ?began ?asked ?tuned input memory operations).2
  case began =>
    intro input scanner hcursor
    have hready : scanner.Ready := by
      refine ⟨?_, ?_⟩
      · rw [hcursor]
        exact Cursor.primed_start input
      · rw [hcursor]
        rfl
    refine ⟨hready.primed, ?_⟩
    rw [Scanner.held_of_ready hready, hcursor, Cursor.unconsumed_start]
    rfl
  case asked =>
    intro transcript answer hanswer h
    obtain ⟨hprimed, hinput⟩ := h
    refine ⟨Scanner.primed_nextToken hprimed, ?_⟩
    have hnext := Scanner.finished_append_held_nextToken hprimed
    rw [finished_record, List.flatMap_append, List.append_assoc, hanswer.handed]
    exact hinput.trans (congrArg (_ ++ ·) hnext.symm)
  case tuned =>
    intro transcript turn hturn h
    obtain ⟨hprimed, hinput⟩ := h
    refine ⟨hturn.place.primed hprimed, ?_⟩
    have hnone : finishedTexts turn.events turn.value.handed? = [] := by
      rw [hturn.handed]
      refine finishedTexts_of_forall_eq_none (fun event hevent => ?_) none
      obtain ⟨before, after, rfl⟩ := hturn.events event hevent
      rfl
    have hheld : turn.scanner.held = transcript.scanner.held := by
      rw [Scanner.held, Scanner.held, hturn.place.exhausted, hturn.place.text,
        hturn.place.unconsumed]
    rw [finished_record, hnone, List.append_nil]
    exact hinput.trans (congrArg (_ ++ ·) hheld.symm)

/-- After all calls the input is made, in order, of the texts that are done with, of the current
text if it ended the input, of the lookahead and of what was not read. -/
theorem input_eq_finished_append (input : List Char) (memory : σ)
    (operations : List (Operation σ)) :
    let transcript := (start table input memory).play operations
    transcript.input =
      transcript.finished.flatMap String.toList ++
        (if transcript.ended then transcript.scanner.cursor.text.toList else []) ++
        transcript.scanner.cursor.lookahead.toList ++ transcript.scanner.cursor.source.unread := by
  intro transcript
  have hheld : transcript.input =
      transcript.finished.flatMap String.toList ++ transcript.scanner.held :=
    input_eq_finished_append_held input memory operations
  have hended : transcript.scanner.cursor.exhausted = transcript.ended :=
    exhausted_play input memory operations
  rw [← hended, List.append_assoc, List.append_assoc]
  exact hheld

end Transcript

end ScanSchema
