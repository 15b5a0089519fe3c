import ScanSchema.Proofs.Scan.Conservation
import ScanSchema.Table.Braces

/-!
# Where tokens and errors stand

A scanner counts bytes and newlines as it consumes characters. Unless a caller changes the counters,
they are those of the first character that is not consumed, and so every token and every error says
where its text stands in the input. `Location.Marks` is what a location has to say about a text, and
`Transcript.located_perform` is the statement for all calls: whatever is called next, what it tells
of the input is in the right place. Inside a call, every text that is done with moves the place for
what comes after it.
-/

namespace ScanSchema

/-- A text of the input stands at a location, behind `before`: the location counts the bytes and the
newlines in front of it, and from there on the bytes of the input spell the text. -/
structure Location.Marks (location : Location) (input before : List Char) (text : String) :
    Prop where
  /-- The text follows what is in front of it. -/
  follows : before ++ text.toList <+: input
  /-- The offset is the number of bytes in front. -/
  offset_eq : location.offset = Text.byteLength before
  /-- Lines are counted from 1. -/
  line_eq : location.line = 1 + before.count '\n'
  /-- The bytes from the offset on are those of the text. -/
  bytes_eq : (String.ofList input).toUTF8.extract location.offset
    (location.offset + text.utf8ByteSize) = text.toUTF8

/-- The location behind a text marks whatever comes next in the input. -/
theorem Location.marks_after {input before : List Char} {text : String}
    (h : before ++ text.toList <+: input) :
    (Location.start.after before).Marks input before text := by
  have hoffset : (Location.start.after before).offset = Text.byteLength before := Nat.zero_add _
  refine ⟨h, hoffset, rfl, ?_⟩
  obtain ⟨rest, rfl⟩ := h
  have hbytes : (String.ofList (before ++ text.toList ++ rest)).toByteArray =
      (String.ofList before).toByteArray ++ (text.toByteArray ++ (String.ofList rest).toByteArray) := by
    rw [String.ofList_append, String.ofList_append, String.ofList_toList, String.toByteArray_append,
      String.toByteArray_append, ByteArray.append_assoc]
  have hfront : (Location.start.after before).offset = (String.ofList before).toByteArray.size :=
    hoffset.trans (Text.utf8ByteSize_ofList before).symm
  have htext : text.utf8ByteSize = text.toByteArray.size := String.size_toByteArray.symm
  change (String.ofList (before ++ text.toList ++ rest)).toByteArray.extract _ _ = text.toByteArray
  rw [hbytes, hfront, htext]
  exact (ByteArray.extract_append_size_add (i := 0)).trans (ByteArray.extract_append_eq_left rfl)

/-- Where a token is said to stand. -/
def Token.location (token : Token) : Location := ⟨token.offset, token.line⟩

/-- Where the token that an error is about is said to start. -/
def LexicalError.location (error : LexicalError) : Location := ⟨error.offset, error.line⟩

/-- An error is in place behind `before`: its dropped text stands where it is said to, and scanning
goes on in the line in which that text ends. -/
structure LexicalError.InPlace (error : LexicalError) (input before : List Char) : Prop where
  /-- The location marks the dropped text. -/
  marks : error.location.Marks input before error.text
  /-- The line named is that of the character behind the dropped text. -/
  line_eq : ∀ line text, error.fault = .invalidToken line text →
    line = 1 + (before ++ text.toList).count '\n'

/-- What an event tells of the input is in place behind `before`. -/
def Event.InPlace (input before : List Char) : Event → Prop
  | .failed error => error.InPlace input before
  | .shown token => token.location.Marks input before token.text
  | .dropped token => token.location.Marks input before token.text
  | .looked _ => True
  | .modeSet _ _ => True

namespace Event

/-- The characters of the texts that are done with after some events. -/
def passed (events : List Event) : List Char := (events.filterMap finished?).flatMap String.toList

/-- All events are in place, each of them behind the texts that those before it are done with. -/
def AllInPlace (input before : List Char) : List Event → Prop
  | [] => True
  | event :: rest => event.InPlace input before ∧ AllInPlace input (before ++ passed [event]) rest

variable {input before : List Char} {front back events : List Event}

/-- What several events are done with, they are done with in turn. -/
theorem passed_append (front back : List Event) :
    passed (front ++ back) = passed front ++ passed back := by
  rw [passed, List.filterMap_append, List.flatMap_append, passed, passed]

/-- Where no event finishes a text, none is passed. -/
theorem passed_of_forall_eq_none (h : ∀ event ∈ events, event.finished? = none) :
    passed events = [] := by
  rw [passed, List.filterMap_eq_nil_iff.mpr h, List.flatMap_nil]

/-- Events come behind those before them. -/
theorem allInPlace_append : AllInPlace input before (front ++ back) ↔
    AllInPlace input before front ∧ AllInPlace input (before ++ passed front) back := by
  induction front generalizing before with
  | nil => simp [AllInPlace, passed]
  | cons event front ih =>
    have hpassed : passed (event :: front) = passed [event] ++ passed front :=
      passed_append [event] front
    rw [List.cons_append, AllInPlace, AllInPlace, ih, hpassed, List.append_assoc, and_assoc]

/-- An event behind others that finish no text is in place where these are. -/
theorem allInPlace_concat {event : Event} (hfront : AllInPlace input before front)
    (hpassed : passed front = []) (hevent : event.InPlace input before) :
    AllInPlace input before (front ++ [event]) := by
  rw [allInPlace_append, hpassed, List.append_nil]
  exact ⟨hfront, hevent, trivial⟩

/-- Events that finish no text are in place if each of them is. -/
theorem allInPlace_of_forall (h : ∀ event ∈ events, event.finished? = none)
    (hplace : ∀ event ∈ events, event.InPlace input before) : AllInPlace input before events := by
  induction events with
  | nil => trivial
  | cons event rest ih =>
    obtain ⟨hfirst, hrest⟩ := List.forall_mem_cons.mp h
    obtain ⟨hplaceFirst, hplaceRest⟩ := List.forall_mem_cons.mp hplace
    refine ⟨hplaceFirst, ?_⟩
    rw [passed_of_forall_eq_none (List.forall_mem_singleton.mpr hfirst), List.append_nil]
    exact ih hrest hplaceRest

end Event

/-- The token that an answer names, that of the end included. -/
def Answer.token? : Answer → Option Token
  | .token next => some next
  | .item next? => next?
  | _ => none

/-- What a call tells of the input is in place, if `before` was consumed before the call: all events,
and behind the texts that these are done with the token of the answer. -/
structure Turn.InPlace {table : Table} {σ : Type} (turn : Turn table σ Answer)
    (input before : List Char) : Prop where
  /-- Every event is. -/
  events : Event.AllInPlace input before turn.events
  /-- So is the token, which may be that of the end. -/
  token : ∀ token, turn.value.token? = some token →
    token.location.Marks input (before ++ Event.passed turn.events) token.text

/-- A cursor stands behind the characters of an input that were consumed, and its counters say so. -/
structure Cursor.StandsBehind (cursor : Cursor) (input consumed : List Char) : Prop where
  /-- The other characters are not consumed yet. -/
  input_eq : input = consumed ++ cursor.unconsumed
  /-- The counters are those of the first of them. -/
  location_eq : cursor.location = Location.start.after consumed

/-- A cursor marks what comes next. -/
theorem Cursor.StandsBehind.marks {cursor : Cursor} {input consumed : List Char} {text : String}
    (h : cursor.StandsBehind input consumed) (htext : consumed ++ text.toList <+: input) :
    cursor.location.Marks input consumed text := by
  rw [h.location_eq]
  exact Location.marks_after htext

/-- At the least, it marks the empty text. -/
theorem Cursor.StandsBehind.marks_empty {cursor : Cursor} {input consumed : List Char}
    (h : cursor.StandsBehind input consumed) : cursor.location.Marks input consumed "" := by
  refine h.marks ⟨cursor.unconsumed, ?_⟩
  rw [String.toList_empty, List.append_nil]
  exact h.input_eq.symm

namespace Scanner

variable {table : Table} {σ : Type} {scanner : Scanner table σ} {input before : List Char}

section Round

/-- What an attempt consumes follows what was consumed before. -/
theorem append_consumed_prefix (hbehind : scanner.cursor.StandsBehind input before) :
    before ++ scanner.way.consumed <+: input := by
  refine ⟨scanner.way.left, ?_⟩
  rw [List.append_assoc, consumed_append_left_way, ← hbehind.input_eq]

/-- Behind a round the scanner has consumed what its way consumes. -/
theorem standsBehind_round (h : scanner.Ready) (hbehind : scanner.cursor.StandsBehind input before) :
    scanner.round.scanner.cursor.StandsBehind input (before ++ scanner.way.consumed) where
  input_eq := by
    rw [List.append_assoc, consumed_append_unconsumed_round h]
    exact hbehind.input_eq
  location_eq := by
    have hlocation : scanner.round.scanner.cursor.location =
        scanner.cursor.location.after scanner.way.consumed := by
      rw [cursor_round h]
      rfl
    rw [hlocation, hbehind.location_eq, Location.after_append]

/-- A round without a token is done with the text that its way consumes. -/
theorem passed_round (h : scanner.Ready) (hround : scanner.round.value = none) :
    Event.passed scanner.round.events = scanner.way.consumed := by
  have hfinished := finishedTexts_round h
  have hgoes := endsInput_of_round_none hround
  rw [stop_attempt h.primed] at hgoes
  rw [hround, hgoes, if_neg Bool.false_ne_true, finishedTexts, Option.bind_none,
    Option.toList_none, List.map_nil, List.append_nil] at hfinished
  rw [Event.passed, hfinished, List.flatMap_singleton, String.toList_ofList]

/-- The match of an attempt is in place. -/
theorem marks_candidate (h : scanner.Ready) (hbehind : scanner.cursor.StandsBehind input before)
    (lexeme : Nat) :
    (scanner.candidate lexeme).location.Marks input before (scanner.candidate lexeme).text := by
  refine hbehind.marks ?_
  rw [candidate, text_moved h.primed, String.toList_ofList]
  exact append_consumed_prefix hbehind

/-- The error about an invalid text is in place. -/
theorem inPlace_rejected (h : scanner.Ready) (hbehind : scanner.cursor.StandsBehind input before) :
    (scanner.errorHere scanner.rejected).InPlace input before := by
  have htext : scanner.moved.cursor.text = String.ofList scanner.way.consumed := text_moved h.primed
  constructor
  · refine hbehind.marks ?_
    rw [LexicalError.text, errorHere, rejected, htext, String.toList_ofList]
    exact append_consumed_prefix hbehind
  · rintro line text hfault
    cases hfault
    have hmoved : scanner.moved.cursor.location =
        scanner.cursor.location.after scanner.way.consumed := by
      rw [cursor_moved h.primed]
      rfl
    rw [hbehind.location_eq, ← Location.after_append] at hmoved
    rw [htext, String.toList_ofList]
    exact congrArg Location.line hmoved

/-- Looking up an outcome tells nothing of the input. -/
theorem allInPlace_looked (scanner : Scanner table σ) (input before : List Char) :
    Event.AllInPlace input before scanner.looked ∧ Event.passed scanner.looked = [] := by
  have hquiet : ∀ event ∈ scanner.looked, event.finished? = none := fun _ => finished?_looked
  refine ⟨Event.allInPlace_of_forall hquiet fun event hevent => ?_,
    Event.passed_of_forall_eq_none hquiet⟩
  obtain ⟨lookup, -, rfl⟩ := List.mem_map.mp hevent
  trivial

/-- Asking the hook tells of the match of the attempt. -/
theorem allInPlace_judged (h : scanner.Ready) (hbehind : scanner.cursor.StandsBehind input before)
    (lexeme : Nat) :
    Event.AllInPlace input before (scanner.looked ++ (scanner.judged lexeme).events) ∧
      Event.passed (scanner.looked ++ (scanner.judged lexeme).events) = [] := by
  obtain ⟨hlooked, hpassed⟩ := scanner.allInPlace_looked input before
  have hquiet : ∀ event ∈ (scanner.judged lexeme).events, event.finished? = none :=
    fun _ => finished?_judged
  rw [Event.allInPlace_append, Event.passed_append, hpassed, List.append_nil,
    Event.passed_of_forall_eq_none hquiet]
  refine ⟨⟨hlooked, Event.allInPlace_of_forall hquiet fun event hevent => ?_⟩, rfl⟩
  unfold judged judge at hevent
  split at hevent
  next => exact absurd hevent List.not_mem_nil
  next =>
    rw [List.mem_singleton.mp hevent]
    exact marks_candidate h hbehind lexeme

/-- What a round tells of the input is in place: all that happens in it, and its token. -/
theorem inPlace_round (h : scanner.Ready) (hbehind : scanner.cursor.StandsBehind input before) :
    Event.AllInPlace input before scanner.round.events ∧
      ∀ token, scanner.round.value = some token →
        token.location.Marks input (before ++ Event.passed scanner.round.events) token.text := by
  obtain ⟨hlooked, hpassed⟩ := scanner.allInPlace_looked input before
  have hjudged := allInPlace_judged h hbehind
  have hrounds := scanner.rounds_round
  generalize scanner.round = turn at hrounds ⊢
  cases hrounds with
  | endOfInput hstop =>
    refine ⟨hlooked, fun token htoken => ?_⟩
    rw [hpassed, List.append_nil, ← Option.some.inj htoken]
    exact hbehind.marks_empty
  | unexpectedEnd hstop =>
    have hfailed : Event.InPlace input before (.failed (scanner.errorHere .unexpectedEnd)) :=
      ⟨hbehind.marks_empty, fun line text hfault => by cases hfault⟩
    refine ⟨Event.allInPlace_concat hlooked hpassed hfailed, fun token htoken => ?_⟩
    have hnone : Event.passed [.failed (scanner.errorHere .unexpectedEnd)] = [] := rfl
    rw [Event.passed_append, hpassed, hnone, List.append_nil, List.append_nil,
      ← Option.some.inj htoken]
    exact hbehind.marks_empty
  | invalid hstop =>
    have hfailed : Event.InPlace input before (.failed (scanner.errorHere scanner.rejected)) :=
      inPlace_rejected h hbehind
    exact ⟨Event.allInPlace_concat hlooked hpassed hfailed, fun token htoken => by cases htoken⟩
  | kept lexeme hstop =>
    refine ⟨(hjudged lexeme).1, fun token htoken => ?_⟩
    rw [(hjudged lexeme).2, List.append_nil, ← Option.some.inj htoken]
    exact marks_candidate h hbehind lexeme
  | dropped lexeme hstop =>
    have hdropped : Event.InPlace input before (.dropped (scanner.candidate lexeme)) :=
      marks_candidate h hbehind lexeme
    exact ⟨Event.allInPlace_concat (hjudged lexeme).1 (hjudged lexeme).2 hdropped,
      fun token htoken => by cases htoken⟩

end Round

/-- What a call tells of the input is in place, and behind it the scanner stands behind what it has
consumed. -/
theorem inPlace_nextToken (h : scanner.cursor.Primed)
    (hbehind : scanner.cursor.StandsBehind input before) :
    Event.AllInPlace input before scanner.nextToken.events ∧
      scanner.nextToken.value.location.Marks input (before ++ Event.passed scanner.nextToken.events)
        scanner.nextToken.value.text ∧
      ∃ consumed, scanner.nextToken.scanner.cursor.StandsBehind input consumed := by
  refine nextToken_induct (motive := fun scanner turn => ∀ before, scanner.cursor.Primed →
    scanner.cursor.StandsBehind input before →
      Event.AllInPlace input before turn.events ∧
        turn.value.location.Marks input (before ++ Event.passed turn.events) turn.value.text ∧
        ∃ consumed, turn.scanner.cursor.StandsBehind input consumed)
    ?exhausted ?answered ?continued scanner before h hbehind
  case exhausted =>
    intro scanner _ before _ hbehind
    have hnone : Event.passed [] = [] := rfl
    refine ⟨trivial, ?_, before, hbehind⟩
    rw [hnone, List.append_nil]
    exact hbehind.marks_empty
  case answered =>
    intro scanner token hlive hround before hprimed hbehind
    have hready : scanner.Ready := ⟨hprimed, hlive⟩
    obtain ⟨hevents, htoken⟩ := inPlace_round hready hbehind
    exact ⟨hevents, htoken token hround, _, standsBehind_round hready hbehind⟩
  case continued =>
    intro scanner hlive hround ih before hprimed hbehind
    have hready : scanner.Ready := ⟨hprimed, hlive⟩
    have hpassed := passed_round hready hround
    obtain ⟨hlater, htoken, hconsumed⟩ :=
      ih _ (primed_round hready) (standsBehind_round hready hbehind)
    rw [← hpassed] at hlater htoken
    refine ⟨Event.allInPlace_append.mpr ⟨(inPlace_round hready hbehind).1, hlater⟩, ?_, hconsumed⟩
    rw [Event.passed_append, ← List.append_assoc]
    exact htoken

section Perform

/-- A call with an argument in range names no token, nor does its refusal. -/
theorem token?_attempted (scanner : Scanner table σ) (result : Except Misuse (Turn table σ Unit)) :
    (scanner.attempted result).value.token? = none := by
  cases result <;> rfl

/-- Setting a mode, or failing to, does not touch the counters. -/
theorem location_attempted_setMode (scanner : Scanner table σ) (mode : Nat) :
    (scanner.attempted (scanner.setMode mode)).scanner.cursor.location =
      scanner.cursor.location := by
  unfold setMode
  split <;> rfl

/-- A call that tells nothing of the input is in place everywhere. -/
theorem inPlace_of_quiet {turn : Turn table σ Answer}
    (hevents : ∀ event ∈ turn.events, ∃ before after, event = .modeSet before after)
    (htoken : turn.value.token? = none) : turn.InPlace input before where
  events := by
    refine Event.allInPlace_of_forall (fun event hevent => ?_) fun event hevent => ?_
    · obtain ⟨before, after, rfl⟩ := hevents event hevent
      rfl
    · obtain ⟨before, after, rfl⟩ := hevents event hevent
      trivial
  token token hanswer := by cases htoken.symm.trans hanswer

/-- What any call tells of the input is in place, if the counters are right before the call. -/
theorem inPlace_perform (h : scanner.cursor.Primed)
    (hbehind : scanner.cursor.StandsBehind input before) (operation : Operation σ) :
    (scanner.perform operation).InPlace input before := by
  obtain ⟨hevents, htoken, -⟩ := inPlace_nextToken h hbehind
  have hnone : ∀ event ∈ ([] : List Event), ∃ before after, event = .modeSet before after :=
    fun event hevent => absurd hevent List.not_mem_nil
  cases operation with
  | nextToken =>
    refine ⟨hevents, fun token hanswer => ?_⟩
    cases hanswer
    exact htoken
  | iterate =>
    refine ⟨hevents, fun token hanswer => ?_⟩
    have hitem : scanner.nextToken?.value = some token := hanswer
    rw [nextToken?] at hitem
    split at hitem
    · cases hitem
    · cases hitem
      exact htoken
  | setMode mode =>
    exact inPlace_of_quiet (scanner.tunes_setMode mode).events (scanner.token?_attempted _)
  | setLine line => exact inPlace_of_quiet hnone rfl
  | setOffset offset => exact inPlace_of_quiet hnone rfl
  | save => exact inPlace_of_quiet hnone rfl
  | restore point =>
    exact inPlace_of_quiet (scanner.tunes_restore point).events (scanner.token?_attempted _)
  | withHook hook memory => exact inPlace_of_quiet hnone rfl
  | reset input => exact inPlace_of_quiet hnone rfl

end Perform

end Scanner

/-- Whether a call leaves the counters to the scanner. -/
def Operation.leavesCounters {σ : Type} : Operation σ → Bool
  | .setLine _ => false
  | .setOffset _ => false
  | .restore _ => false
  | _ => true

namespace Transcript

variable {table : Table} {σ : Type}

/-- The transcript of a scanner that begins on an input: of a new one, or of one that is reset. -/
def begun (scanner : Scanner table σ) (input : List Char) : Transcript table σ :=
  ⟨input, [], scanner.reset input⟩

/-- The scanner of a transcript has its next character at hand, and stands behind what was consumed
of the input. -/
structure Placed (transcript : Transcript table σ) : Prop where
  /-- The next character is at hand. -/
  primed : transcript.scanner.cursor.Primed
  /-- The counters are right. -/
  behind : ∃ consumed, transcript.scanner.cursor.StandsBehind transcript.input consumed

/-- In the beginning nothing is consumed, and the counters say so. -/
theorem placed_begun (scanner : Scanner table σ) (input : List Char) :
    (begun scanner input).Placed where
  primed := Cursor.primed_start input
  behind := ⟨[], (Cursor.unconsumed_start input).symm, rfl⟩

/-- A call that leaves the counters alone leaves them right. -/
theorem Placed.perform {transcript : Transcript table σ} (h : transcript.Placed)
    {operation : Operation σ} (hleaves : operation.leavesCounters = true) :
    (transcript.perform operation).Placed := by
  obtain ⟨hprimed, consumed, hbehind⟩ := h
  have hasked := (Scanner.inPlace_nextToken hprimed hbehind).2.2
  have hnext := Scanner.primed_nextToken hprimed
  cases operation with
  | nextToken => exact ⟨hnext, hasked⟩
  | iterate => exact ⟨hnext, hasked⟩
  | setMode mode =>
    have hplace := (transcript.scanner.tunes_setMode mode).place
    exact ⟨hplace.primed hprimed, consumed,
      hbehind.input_eq.trans (congrArg (consumed ++ ·) hplace.unconsumed.symm),
      (transcript.scanner.location_attempted_setMode mode).trans hbehind.location_eq⟩
  | setLine => cases hleaves
  | setOffset => cases hleaves
  | save => exact ⟨hprimed, consumed, hbehind⟩
  | restore => cases hleaves
  | withHook hook memory => exact ⟨hprimed, consumed, hbehind.input_eq, hbehind.location_eq⟩
  | reset input => exact placed_begun transcript.scanner input

/-- So the counters are right after all calls. -/
theorem Placed.play {transcript : Transcript table σ} (h : transcript.Placed)
    {operations : List (Operation σ)}
    (hleaves : ∀ operation ∈ operations, operation.leavesCounters = true) :
    (transcript.play operations).Placed := by
  induction operations generalizing transcript with
  | nil => exact h
  | cons operation operations ih =>
    obtain ⟨hfirst, hrest⟩ := List.forall_mem_cons.mp hleaves
    exact ih (h.perform hfirst) hrest

/-- A scanner, new or reset, of which the counters are left alone, always stands at the location of
the first character that it has not consumed. Whatever is called next, the tokens that are handed
out or shown to the hook and the errors say where their texts stand in the input, and an error about
an invalid text names the line in which it ends. -/
theorem located_perform (scanner : Scanner table σ) (input : List Char)
    (operations : List (Operation σ))
    (h : ∀ operation ∈ operations, operation.leavesCounters = true) :
    let transcript := (begun scanner input).play operations
    ∃ consumed, transcript.input = consumed ++ transcript.scanner.cursor.unconsumed ∧
      transcript.scanner.cursor.offset = Text.byteLength consumed ∧
      transcript.scanner.cursor.line = 1 + consumed.count '\n' ∧
      ∀ operation, (transcript.scanner.perform operation).InPlace transcript.input consumed := by
  intro transcript
  obtain ⟨hprimed, consumed, hbehind⟩ : transcript.Placed := (placed_begun scanner input).play h
  refine ⟨consumed, hbehind.input_eq, ?_, ?_, Scanner.inPlace_perform hprimed hbehind⟩
  · exact hbehind.marks_empty.offset_eq
  · exact hbehind.marks_empty.line_eq

/-- A letter of two bytes and a literal that is broken off by the end of its line stand before a
brace: the brace is at byte 4 in line 2, and what comes behind it is in place too. -/
theorem located_perform_literal :
    let operations : List (Operation Unit) := [.nextToken]
    let transcript := (begun (Scanner.start Table.braces [] ()) ['é', '"', '\n', '\x7b', '}']).play
      operations
    (∀ operation ∈ operations, operation.leavesCounters = true) ∧
      transcript.turns.map (fun turn => (turn.value, Event.errors turn.events)) =
        [(.token ⟨⟨1⟩, "\x7b", 4, 2⟩, [⟨2, 1, .invalidToken 2 "\"\n"⟩])] ∧
      ∃ consumed, transcript.input = consumed ++ transcript.scanner.cursor.unconsumed ∧
        transcript.scanner.cursor.offset = Text.byteLength consumed ∧
        transcript.scanner.cursor.line = 1 + consumed.count '\n' ∧
        ∀ operation, (transcript.scanner.perform operation).InPlace transcript.input consumed := by
  intro operations transcript
  have hleaves : ∀ operation ∈ operations, operation.leavesCounters = true := by decide
  exact ⟨hleaves, by decide +kernel, located_perform _ _ operations hleaves⟩

end Transcript

end ScanSchema
