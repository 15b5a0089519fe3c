import ScanSchema.Proofs.Scan.EndOfInput
import ScanSchema.Proofs.Scan.Positions
import ScanSchema.Scan.Listing
import Mathlib.Data.List.Forall2

/-!
# After the end of the input

Once a scanner has reported the end of its input, only a reset leads away from there. Every call for
a token reports the end again, and no call consumes a character, reports an error or asks the hook:
`Transcript.ends_again_after_end`. So at most one token of an input is reported as unfinished.

The end that comes again need not be the one that came first. The first one stands where the last
attempt began, and the later ones where the scanner stands, which is behind the text of that attempt.
`Table.end_stays_iff` says for which tables they are always the same: those in which no attempt
meets the end of the input behind a text.
-/

namespace ScanSchema

/-- Whether a call begins another input. -/
def Operation.begins {σ : Type} : Operation σ → Bool
  | .reset _ => true
  | _ => false

/-- Whether a call leaves the scanner in its place, if that is the end of the input. -/
def Operation.keepsPlace {σ : Type} (operation : Operation σ) : Bool :=
  operation.leavesCounters && !operation.begins

/-- A cursor stays in its place over several calls. -/
theorem Cursor.SamePlace.trans {first second third : Cursor} (h : first.SamePlace second)
    (h' : second.SamePlace third) : first.SamePlace third where
  lookahead := h'.lookahead.trans h.lookahead
  source := h'.source.trans h.source
  text := h'.text.trans h.text
  tokenLine := h'.tokenLine.trans h.tokenLine
  exhausted := h'.exhausted.trans h.exhausted

/-- A text leads away from a location unless it is empty. -/
theorem Location.after_eq_self_iff {location : Location} {text : List Char} :
    location.after text = location ↔ text = [] := by
  constructor
  · intro h
    have hoffset : location.offset + Text.byteLength text = location.offset :=
      congrArg Location.offset h
    cases text with
    | nil => rfl
    | cons c rest =>
      have hpos := c.utf8Size_pos
      rw [Text.byteLength] at hoffset
      omega
  · rintro rfl
    exact location.after_nil

/-- How many tokens some events report as unfinished. -/
def Event.unfinished (events : List Event) : Nat :=
  ((errors events).map (·.fault)).count .unexpectedEnd

/-- Unfinished tokens are counted part by part. -/
theorem Event.unfinished_append (front back : List Event) :
    unfinished (front ++ back) = unfinished front + unfinished back := by
  rw [unfinished, errors_append, List.map_append, List.count_append, unfinished, unfinished]

/-- Without errors no token is unfinished. -/
theorem Event.unfinished_of_errors_eq_nil {events : List Event} (h : errors events = []) :
    unfinished events = 0 := by
  rw [unfinished, h]
  rfl

namespace Scanner

variable {table : Table} {σ : Type} {scanner : Scanner table σ} {operation : Operation σ}

/-- What a call brings after the end of the input: the end again, if it asks for a token, and
otherwise nothing that has to do with the input. -/
structure EndsAgain (scanner : Scanner table σ) (operation : Operation σ)
    (turn : Turn table σ Answer) : Prop where
  /-- The next token is that of the end, which has no text. -/
  token : operation = .nextToken → ∃ offset line, turn.value = .token (.endOfInput offset line)
  /-- Where the end is left out, there is none. -/
  item : operation = .iterate → turn.value = .item none
  /-- No error is reported. -/
  errors : Event.errors turn.events = []
  /-- The hook is not asked. -/
  shown : Event.shownTokens turn.events = []
  /-- No character is consumed or asked for, and the current text stays as it was. -/
  place : scanner.cursor.SamePlace turn.scanner.cursor

section EndsAgain

/-- Where at most the mode was set, no error is reported and the hook is not asked. -/
theorem errors_of_tunes {turn : Turn table σ Answer} (h : scanner.Tunes turn) :
    Event.errors turn.events = [] ∧ Event.shownTokens turn.events = [] := by
  constructor
  all_goals
    refine List.filterMap_eq_nil_iff.mpr fun event hevent => ?_
    obtain ⟨before, after, rfl⟩ := h.events event hevent
    rfl

/-- A call that does not ask for a token and leaves the scanner where it is. -/
theorem EndsAgain.of_tunes {turn : Turn table σ Answer} (h : scanner.Tunes turn)
    (htoken : operation ≠ .nextToken) (hitem : operation ≠ .iterate) :
    scanner.EndsAgain operation turn where
  token heq := absurd heq htoken
  item heq := absurd heq hitem
  errors := (errors_of_tunes h).1
  shown := (errors_of_tunes h).2
  place := h.place

/-- The end comes again wherever the scanner has the same place. -/
theorem EndsAgain.of_samePlace {other : Scanner table σ} {turn : Turn table σ Answer}
    (hplace : other.cursor.SamePlace scanner.cursor) (h : scanner.EndsAgain operation turn) :
    other.EndsAgain operation turn :=
  { h with place := hplace.trans h.place }

/-- One call after the end, of any kind but a reset. -/
theorem endsAgain_perform (h : scanner.cursor.exhausted = true)
    (hbegins : operation.begins = false) :
    scanner.EndsAgain operation (scanner.perform operation) := by
  have hnext := nextToken_of_exhausted h
  cases operation with
  | nextToken =>
    rw [perform, hnext]
    exact ⟨fun _ => ⟨_, _, rfl⟩, (by rintro ⟨⟩), rfl, rfl, .refl _⟩
  | iterate =>
    rw [perform, nextToken?, hnext]
    exact ⟨(by rintro ⟨⟩), fun _ => rfl, rfl, rfl, .refl _⟩
  | reset input => cases hbegins
  | _ =>
    exact .of_tunes (scanner.tunes_perform rfl) (by rintro ⟨⟩) (by rintro ⟨⟩)

end EndsAgain

section Unfinished

/-- A round reports a token as unfinished only if its own token is that of the end, and then once. -/
theorem unfinished_round_le (scanner : Scanner table σ) :
    Event.unfinished scanner.round.events ≤ (scanner.round.value.any Token.isEnd).toNat := by
  have hlooked : Event.unfinished scanner.looked = 0 :=
    Event.unfinished_of_errors_eq_nil scanner.errors_looked
  have hjudged : ∀ lexeme, Event.unfinished (scanner.judged lexeme).events = 0 := by
    intro lexeme
    refine Event.unfinished_of_errors_eq_nil ?_
    unfold judged judge
    split <;> rfl
  have hrounds := scanner.rounds_round
  generalize scanner.round = turn at hrounds ⊢
  cases hrounds with
  | endOfInput =>
    rw [hlooked]
    exact Nat.zero_le _
  | unexpectedEnd =>
    rw [Event.unfinished_append, hlooked]
    exact Nat.le_refl 1
  | invalid =>
    rw [Event.unfinished_append, hlooked]
    exact Nat.zero_le _
  | kept lexeme =>
    rw [Event.unfinished_append, hlooked, hjudged]
    exact Nat.zero_le _
  | dropped lexeme =>
    rw [Event.unfinished_append, Event.unfinished_append, hlooked, hjudged]
    exact Nat.zero_le _

/-- So does a call. -/
theorem unfinished_nextToken_le (scanner : Scanner table σ) :
    Event.unfinished scanner.nextToken.events ≤ scanner.nextToken.value.isEnd.toNat := by
  refine nextToken_induct (motive := fun _ turn =>
    Event.unfinished turn.events ≤ turn.value.isEnd.toNat) ?exhausted ?answered ?continued scanner
  case exhausted => exact fun _ _ => Nat.zero_le _
  case answered =>
    intro scanner token _ hround
    have hle := scanner.unfinished_round_le
    rwa [hround] at hle
  case continued =>
    intro scanner _ hround ih
    have hle := scanner.unfinished_round_le
    rw [hround] at hle
    have hnone : Event.unfinished scanner.round.events = 0 := Nat.le_zero.mp hle
    rw [Event.unfinished_append, hnone, Nat.zero_add]
    exact ih

end Unfinished

section Stays

/-- After the end, a call that keeps the place leaves the counters as they are. -/
theorem location_perform_of_keepsPlace (h : scanner.cursor.exhausted = true)
    (hkeeps : operation.keepsPlace = true) :
    (scanner.perform operation).scanner.cursor.location = scanner.cursor.location := by
  have hnext := nextToken_of_exhausted h
  cases operation with
  | nextToken => rw [perform, hnext]
  | iterate => rw [perform, nextToken?, hnext]
  | setMode mode => exact scanner.location_attempted_setMode mode
  | save => rfl
  | withHook hook memory => rfl
  | setLine line => cases hkeeps
  | setOffset offset => cases hkeeps
  | restore point => cases hkeeps
  | reset input => cases hkeeps

/-- The tokens of the end in two places are the same only if the locations are. -/
theorem endToken_eq_iff {other : Scanner table σ} :
    scanner.endToken = other.endToken ↔ scanner.cursor.location = other.cursor.location := by
  rw [endToken, endToken, Token.endOfInput, Token.endOfInput, Token.mk.injEq, Cursor.location,
    Cursor.location, Location.mk.injEq]
  exact ⟨fun h => h.2.2, fun h => ⟨rfl, rfl, h⟩⟩

/-- A round whose way ends the input answers with the end in the place where it began. -/
theorem round_value_of_endsInput (h : scanner.cursor.Primed)
    (hends : scanner.way.stop.endsInput = true) : scanner.round.value = some scanner.endToken := by
  rcases Stop.eq_of_endsInput hends with hstop | hstop
  · rw [round_of_endOfInput ((stop_attempt h).trans hstop)]
  · rw [round_of_unexpectedEnd ((stop_attempt h).trans hstop)]

/-- A call that finds the end answers with the place where its last attempt began, and leaves the
scanner behind the text of that attempt. -/
theorem exists_last_of_isEnd (h : scanner.Ready) (hend : scanner.nextToken.value.isEnd = true) :
    ∃ last : Scanner table σ, last.Ready ∧ last.way.stop.endsInput = true ∧
      scanner.nextToken.value = last.endToken ∧
      scanner.nextToken.scanner.cursor.text = String.ofList last.way.text ∧
      scanner.nextToken.scanner.cursor.location = last.cursor.location.after last.way.text := by
  obtain ⟨last, _, hlast, hvalue, _, hscanner⟩ := exists_round_nextToken h
  have hends : last.way.stop.endsInput = true := by
    rw [← any_isEnd_round hlast.primed, hvalue]
    exact hend
  have htext := (Walk.consumed_left_of_endsInput hends).1
  rw [round_value_of_endsInput hlast.primed hends] at hvalue
  refine ⟨last, hlast, hends, (Option.some.inj hvalue).symm, ?_, ?_⟩
  · rw [hscanner, text_round hlast, htext]
  · rw [hscanner, cursor_round hlast, ← htext]
    rfl

/-- The end comes again in the place where it came first exactly if no text was left there. -/
theorem endToken_nextToken_eq_iff (h : scanner.Ready)
    (hend : scanner.nextToken.value.isEnd = true) :
    scanner.nextToken.scanner.endToken = scanner.nextToken.value ↔
      scanner.nextToken.scanner.cursor.text = "" := by
  obtain ⟨last, -, -, hvalue, htext, hlocation⟩ := exists_last_of_isEnd h hend
  rw [hvalue, endToken_eq_iff, hlocation, Location.after_eq_self_iff, htext,
    String.ofList_eq_empty_iff]

end Stays

end Scanner

namespace Transcript

variable {table : Table} {σ : Type} {transcript : Transcript table σ}

/-- How many tokens were reported as unfinished since the input began. -/
def unfinished (transcript : Transcript table σ) : Nat :=
  Event.unfinished (transcript.turns.flatMap fun turn => turn.events)

/-- What a call reports as unfinished is added to what was reported before. -/
theorem unfinished_record (transcript : Transcript table σ) (turn : Turn table σ Answer) :
    (transcript.record turn).unfinished =
      transcript.unfinished + Event.unfinished turn.events := by
  rw [unfinished, record, List.flatMap_append, List.flatMap_singleton, Event.unfinished_append,
    unfinished]

/-- No token was reported as unfinished before the end, and at most one with it. -/
theorem unfinished_play_le (input : List Char) (memory : σ) (operations : List (Operation σ)) :
    ((start table input memory).play operations).unfinished ≤
      ((start table input memory).play operations).scanner.cursor.exhausted.toNat := by
  refine (play_induct (motive := fun transcript => transcript.scanner.cursor.Primed ∧
    transcript.unfinished ≤ transcript.scanner.cursor.exhausted.toNat)
    ?began ?asked ?tuned input memory operations).2
  case began =>
    intro input scanner hcursor
    dsimp only
    rw [hcursor]
    exact ⟨Cursor.primed_start input, Nat.zero_le _⟩
  case asked =>
    intro transcript answer _ h
    obtain ⟨hprimed, hle⟩ := h
    refine ⟨Scanner.primed_nextToken hprimed, ?_⟩
    have hnext := transcript.scanner.unfinished_nextToken_le
    rw [← Scanner.exhausted_nextToken hprimed] at hnext
    rw [unfinished_record]
    cases hexhausted : transcript.scanner.cursor.exhausted with
    | true =>
      rw [hexhausted] at hle
      rw [record, Scanner.nextToken_of_exhausted hexhausted]
      dsimp only
      rw [hexhausted]
      exact hle
    | false =>
      rw [hexhausted] at hle
      have hnone : transcript.unfinished = 0 := Nat.le_zero.mp hle
      rw [hnone, Nat.zero_add]
      exact hnext
  case tuned =>
    intro transcript turn hturn h
    obtain ⟨hprimed, hle⟩ := h
    refine ⟨hturn.place.primed hprimed, ?_⟩
    rw [unfinished_record, Event.unfinished_of_errors_eq_nil (Scanner.errors_of_tunes hturn).1,
      Nat.add_zero]
    rw [record, hturn.place.exhausted]
    exact hle

/-- After the end, all calls but a reset bring the end again, one after the other. -/
theorem forall₂_endsAgain (h : transcript.scanner.cursor.exhausted = true)
    {later : List (Operation σ)} (hlater : ∀ operation ∈ later, operation.begins = false) :
    ∃ turns, (transcript.play later).turns = transcript.turns ++ turns ∧
      List.Forall₂ transcript.scanner.EndsAgain later turns := by
  induction later generalizing transcript with
  | nil => exact ⟨[], (List.append_nil _).symm, .nil⟩
  | cons operation later ih =>
    obtain ⟨hbegins, hrest⟩ := List.forall_mem_cons.mp hlater
    have hends := Scanner.endsAgain_perform h hbegins
    have hrecord : transcript.perform operation =
        transcript.record (transcript.scanner.perform operation) :=
      perform_of_ne_reset transcript fun input heq => by cases heq ▸ hbegins
    have hexhausted : (transcript.record (transcript.scanner.perform
        operation)).scanner.cursor.exhausted = true := hends.place.exhausted.trans h
    obtain ⟨turns, hturns, hall⟩ := ih hexhausted hrest
    refine ⟨transcript.scanner.perform operation :: turns, ?_, .cons hends ?_⟩
    · rw [play, List.foldl_cons, hrecord]
      exact hturns.trans (List.append_assoc _ _ _)
    · exact hall.imp fun _ _ hlast => hlast.of_samePlace hends.place

/-- Once the end of an input was reported, every later call but a reset brings the end again: the
next token is that of the end and has no text, there is no token where the end is left out, no error
is reported, the hook is not asked, no character is consumed, and the current text stays as it was.
In all calls for one input at most one token is reported as unfinished. -/
theorem ends_again_after_end (table : Table) (input : List Char) (memory : σ)
    (operations : List (Operation σ)) :
    let transcript := (start table input memory).play operations
    transcript.unfinished ≤ 1 ∧
      (transcript.ended = true →
        ∀ later : List (Operation σ), (∀ operation ∈ later, operation.begins = false) →
          ∃ turns, (transcript.play later).turns = transcript.turns ++ turns ∧
            List.Forall₂ transcript.scanner.EndsAgain later turns) := by
  intro transcript
  have hexhausted : transcript.scanner.cursor.exhausted = transcript.ended :=
    exhausted_play input memory operations
  refine ⟨Nat.le_trans (unfinished_play_le input memory operations) (Bool.toNat_le _), ?_⟩
  intro hended later hlater
  exact forall₂_endsAgain (hexhausted.trans hended) hlater

/-- A literal is not closed before the end. Nothing that is called then, not even putting back the
state from before the literal, brings anything but the end. -/
theorem ends_again_after_literal :
    let transcript := (start Table.braces ['"', 'a'] ()).play [.save, .nextToken]
    let later : List (Operation Unit) :=
      [.nextToken, .restore ⟨0, 1, 0⟩, .withHook Listing.keepAll (), .iterate]
    (transcript.ended = true ∧ ∀ operation ∈ later, operation.begins = false) ∧
      (transcript.unfinished = 1 ∧
        (transcript.play later).turns.map (fun turn => turn.value) =
          [.saved ⟨0, 1, 0⟩, .token ⟨.endOfInput, "", 0, 1⟩, .token ⟨.endOfInput, "", 2, 1⟩, .done,
            .done, .item none]) ∧
      ∃ turns, (transcript.play later).turns = transcript.turns ++ turns ∧
        List.Forall₂ transcript.scanner.EndsAgain later turns := by
  intro transcript later
  have hended : transcript.ended = true := by decide +kernel
  have hlater : ∀ operation ∈ later, operation.begins = false := by decide
  exact ⟨⟨hended, hlater⟩, by decide +kernel,
    (ends_again_after_end Table.braces ['"', 'a'] () [.save, .nextToken]).2 hended later hlater⟩

/-- After the end, calls that keep the place leave the scanner at the end, in the same location. -/
theorem location_play_of_keepsPlace (h : transcript.scanner.cursor.exhausted = true)
    {later : List (Operation σ)} (hlater : ∀ operation ∈ later, operation.keepsPlace = true) :
    (transcript.play later).scanner.cursor.exhausted = true ∧
      (transcript.play later).scanner.cursor.location = transcript.scanner.cursor.location := by
  induction later generalizing transcript with
  | nil => exact ⟨h, rfl⟩
  | cons operation later ih =>
    obtain ⟨hkeeps, hrest⟩ := List.forall_mem_cons.mp hlater
    have hbegins : operation.begins = false := by
      rw [Operation.keepsPlace, Bool.and_eq_true] at hkeeps
      exact Bool.not_eq_true' _ |>.mp hkeeps.2
    have hrecord : transcript.perform operation =
        transcript.record (transcript.scanner.perform operation) :=
      perform_of_ne_reset transcript fun input heq => by cases heq ▸ hbegins
    have hends := Scanner.endsAgain_perform h hbegins
    have hnext : (transcript.record (transcript.scanner.perform
        operation)).scanner.cursor.exhausted = true := hends.place.exhausted.trans h
    obtain ⟨hexhausted, hlocation⟩ := ih hnext hrest
    rw [play, List.foldl_cons, hrecord]
    exact ⟨hexhausted, hlocation.trans (Scanner.location_perform_of_keepsPlace h hkeeps)⟩

/-- Where the end was found, every later call for a token finds it where the scanner stood then. -/
theorem value_nextToken_after_end (h : transcript.scanner.cursor.Primed)
    (hend : transcript.scanner.nextToken.value.isEnd = true) {later : List (Operation σ)}
    (hlater : ∀ operation ∈ later, operation.keepsPlace = true) :
    ((transcript.perform .nextToken).play later).scanner.nextToken.value =
      transcript.scanner.nextToken.scanner.endToken := by
  have hexhausted : (transcript.perform .nextToken).scanner.cursor.exhausted = true :=
    (Scanner.exhausted_nextToken h).trans hend
  obtain ⟨hlast, hlocation⟩ := location_play_of_keepsPlace hexhausted hlater
  rw [Scanner.nextToken_of_exhausted hlast]
  exact Scanner.endToken_eq_iff.mpr hlocation

end Transcript

/-- An attempt can meet the end of the input behind a text: a path of at least one character leads
from a start state to one that accepts no lexeme on the end. -/
def Table.EndsBehindText (table : Table) : Prop :=
  ∃ mode < table.modeCount, ∃ text state, text ≠ [] ∧ table.Reads mode text state ∧
    ∀ lexeme, table.outcome state 0 ≠ .accept lexeme

/-- A way that ends the input behind a text is such a path. -/
theorem Scanner.endsBehindText_of_way {table : Table} {σ : Type} {scanner : Scanner table σ}
    (hends : scanner.way.stop.endsInput = true) (htext : scanner.way.text ≠ []) :
    table.EndsBehindText := by
  have hstate := Table.lt_stateCount_of_mode scanner.mode_lt
  refine ⟨scanner.cursor.mode, scanner.mode_lt, scanner.way.text, scanner.way.state, htext,
    Automaton.reads_walk _ _, fun lexeme hlexeme => ?_⟩
  rcases Stop.eq_of_endsInput hends with hstop | hstop
  · have haccept := (Table.start_of_stop_endOfInput hstate hstop).2.1
    cases haccept.symm.trans hlexeme
  · have hrest : scanner.way.rest = [] := Walk.rest_of_stop_unexpectedEnd hstop
    have hout : scanner.way.outcome =
        table.outcome scanner.way.state (table.classes.classOf scanner.way.rest.head?) :=
      Automaton.outcome_walk _ _
    rw [hrest, List.head?_nil, CharClasses.classOf_none, hlexeme] at hout
    rw [Walk.stop_eq_matched_iff.mpr hout] at hstop
    cases hstop

/-- In every use of a scanner, whatever is called that keeps the place, the end of the input comes
again as it came first, exactly if no attempt of the table meets the end behind a text. -/
theorem Table.end_stays_iff (table : Table) :
    (∀ (σ : Type) (memory : σ) (input : List Char) (operations later : List (Operation σ)),
      let transcript := (Transcript.start table input memory).play operations
      transcript.scanner.nextToken.value.isEnd = true →
      (∀ operation ∈ later, operation.keepsPlace = true) →
      ((transcript.perform .nextToken).play later).scanner.nextToken.value =
        transcript.scanner.nextToken.value) ↔ ¬ table.EndsBehindText := by
  constructor
  · rintro hall ⟨mode, hmode, text, state, htext, hreads, hout⟩
    obtain ⟨hended, hway⟩ := Transcript.play_setMode hmode text ()
    have hready := Transcript.ready_play hended
    have hsame := hall Unit () text [.setMode mode] []
    generalize (Transcript.start table text ()).play [.setMode mode] = transcript
      at hway hready hsame
    have hwalk : table.walk mode text =
        text.foldr Walk.extend ⟨[], [], state, table.outcome state 0⟩ := by
      have happend := Automaton.walk_append_of_reads hreads []
      rwa [List.append_nil] at happend
    obtain ⟨hstop, hconsumed, _⟩ := Walk.foldr_extend text ⟨[], [], state, table.outcome state 0⟩
    rw [← hwalk, ← hway] at hstop hconsumed
    have hends : transcript.scanner.way.stop.endsInput = true := by
      rw [hstop]
      cases hcell : table.outcome state 0 with
      | accept lexeme => exact absurd hcell (hout lexeme)
      | goto next => rfl
      | reject => rfl
      | acceptEnd => rfl
    have hround := Scanner.round_value_of_endsInput hready.primed hends
    have hnext := Scanner.nextToken_of_round_some hready.live hround
    have hend : transcript.scanner.nextToken.value.isEnd = true := by
      rw [hnext]
      rfl
    have hnil : ∀ operation ∈ ([] : List (Operation Unit)), operation.keepsPlace = true :=
      fun _ hmem => absurd hmem List.not_mem_nil
    have hagain := hsame hend hnil
    rw [Transcript.value_nextToken_after_end hready.primed hend hnil,
      Scanner.endToken_nextToken_eq_iff hready hend, hnext, Scanner.text_round hready,
      String.ofList_eq_empty_iff, hconsumed] at hagain
    exact htext (List.append_eq_nil_iff.mp hagain).1
  · intro hnot σ memory input operations later transcript hend hlater
    have hprimed : transcript.scanner.cursor.Primed :=
      Transcript.primed_play input memory operations
    rw [Transcript.value_nextToken_after_end hprimed hend hlater]
    cases hexhausted : transcript.scanner.cursor.exhausted with
    | true => rw [Scanner.nextToken_of_exhausted hexhausted]
    | false =>
      have hready : transcript.scanner.Ready := ⟨hprimed, hexhausted⟩
      obtain ⟨last, -, hends, -, htext, -⟩ := Scanner.exists_last_of_isEnd hready hend
      rw [Scanner.endToken_nextToken_eq_iff hready hend, htext, String.ofList_eq_empty_iff]
      by_contra hne
      exact hnot (Scanner.endsBehindText_of_way hends hne)

/-- In the table for action code the end comes first where an unfinished literal begins, and then
where the input ends. -/
theorem Table.end_moves_behind_literal :
    ∃ table, Table.ofDefinition .braces = .ok table ∧
      let first := (Scanner.start table ['"', 'a'] ()).nextToken
      let again := first.scanner.nextToken
      first.value.isEnd = true ∧ first.value = ⟨.endOfInput, "", 0, 1⟩ ∧
        again.value = ⟨.endOfInput, "", 2, 1⟩ ∧ again.value ≠ first.value := by
  refine ⟨_, Table.ofDefinition_of_defect?_eq_none Definition.defect?_braces, ?_⟩
  decide +kernel

end ScanSchema
