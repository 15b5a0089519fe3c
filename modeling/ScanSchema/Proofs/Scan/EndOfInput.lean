import ScanSchema.Proofs.Scan.Transcript
import ScanSchema.Table.Braces

/-!
# Where the end of the input is accepted

Only start states accept the end of the input, and only on class 0. Two things are left open by
that: a path may lead back into a start state, and a character may be in class 0. A table for which
neither happens accepts the end only between tokens and only where no character is left. The
theorems here say that these tables are exactly the ones for which every use of a scanner is safe in
this sense; a small table and the table for action code show what happens otherwise.
-/

namespace ScanSchema

namespace Table

/-- The table accepts the end of the input after some text: a path leads from a start state back to
one that accepts the end. -/
def EndsInsideToken (table : Table) : Prop :=
  ∃ mode < table.modeCount, ∃ text state, text ≠ [] ∧ table.Reads mode text state ∧
    table.outcome state 0 = .acceptEnd

/-- The table takes some character for the end of the input: a mode accepts the end, and a character
is in the class of the end. -/
def EndsOnCharacter (table : Table) : Prop :=
  (∃ mode < table.modeCount, table.outcome mode 0 = .acceptEnd) ∧
    ∃ c, table.classes.classOf (some c) = 0

variable {table : Table} {state : Nat}

/-- A walk accepts the end only in a start state, and only where class 0 follows. -/
theorem start_of_stop_endOfInput (hstate : state < table.stateCount) {chars : List Char}
    (h : (table.walk state chars).stop = .endOfInput) :
    (table.walk state chars).state < table.modeCount ∧
      table.outcome (table.walk state chars).state 0 = .acceptEnd ∧
      table.classes.classOf (table.walk state chars).rest.head? = 0 := by
  have haccept := Walk.stop_eq_endOfInput_iff.mp h
  have hlegal := legalOutcome_walk hstate chars
  rw [haccept] at hlegal
  obtain ⟨hmode, hclass⟩ := hlegal
  have hout : (table.walk state chars).outcome = _ := Automaton.outcome_walk state chars
  rw [hclass, haccept] at hout
  exact ⟨hmode, hout.symm, hclass⟩

end Table

namespace Scanner

variable {table : Table} {σ : Type} {scanner : Scanner table σ}

/-- A round that ends the input without reporting it accepts the end. -/
theorem stop_way_of_silent (h : scanner.Ready) (hend : scanner.way.stop.endsInput = true)
    (hsilent : ∀ error ∈ Event.errors scanner.round.events, error.fault ≠ .unexpectedEnd) :
    scanner.way.stop = .endOfInput := by
  rcases Stop.eq_of_endsInput hend with hstop | hstop
  · exact hstop
  · rw [round_of_unexpectedEnd ((stop_attempt h.primed).trans hstop)] at hsilent
    have hreported : scanner.errorHere .unexpectedEnd ∈
        Event.errors (scanner.looked ++ [.failed (scanner.errorHere .unexpectedEnd)]) :=
      List.mem_filterMap.mpr ⟨_, List.mem_append_right _ List.mem_cons_self, rfl⟩
    exact absurd rfl (hsilent _ hreported)

/-- Where the way accepts the end, the call answers with the end, and only look-ups happen. -/
theorem nextToken_of_stop_endOfInput (h : scanner.Ready) (hstop : scanner.way.stop = .endOfInput) :
    scanner.nextToken = ⟨scanner.endToken, scanner.looked, scanner.moved.exhaust⟩ := by
  have hround := round_of_endOfInput ((stop_attempt h.primed).trans hstop)
  rw [nextToken_of_round_some h.live (congrArg Turn.value hround), hround]

/-- A call that finds the end has found it in its last round, whose way ends the input. -/
theorem exists_round_of_isEnd (h : scanner.Ready) (hend : scanner.nextToken.value.isEnd = true) :
    ∃ (last : Scanner table σ) (earlier : List Event), last.Ready ∧
      last.way.stop.endsInput = true ∧
      scanner.nextToken.events = earlier ++ last.round.events ∧
      scanner.nextToken.scanner = last.round.scanner := by
  obtain ⟨last, earlier, hlast, hvalue, hevents, hscanner⟩ := exists_round_nextToken h
  refine ⟨last, earlier, hlast, ?_, hevents, hscanner⟩
  rw [← any_isEnd_round hlast.primed, hvalue]
  exact hend

end Scanner

namespace Transcript

variable {table : Table} {σ : Type}

/-- The scanner whose first call sets a mode: it is ready for the input, in that mode. -/
theorem play_setMode {mode : Nat} (hmode : mode < table.modeCount) (input : List Char)
    (memory : σ) :
    ((start table input memory).play [.setMode mode]).ended = false ∧
      ((start table input memory).play [.setMode mode]).scanner.way = table.walk mode input := by
  have hturn : ((start table input memory).scanner.setMode mode) = _ := dif_pos hmode
  have hplay : (start table input memory).play [.setMode mode] =
      (start table input memory).record
        ((start table input memory).scanner.attempted
          ((start table input memory).scanner.setMode mode)) := rfl
  rw [hplay, hturn]
  refine ⟨rfl, congrArg (table.walk mode) ?_⟩
  exact Cursor.unconsumed_start input

end Transcript

/-- Every use of a scanner accepts the end of the input only between tokens, exactly if no path of
the table leads from a start state back to one that accepts the end. -/
theorem Table.text_empty_at_silent_end_iff (table : Table) :
    (∀ (σ : Type) (memory : σ) (input : List Char) (operations : List (Operation σ)),
      let transcript := (Transcript.start table input memory).play operations
      transcript.ended = false →
      transcript.scanner.nextToken.value.isEnd = true →
      (∀ error ∈ Event.errors transcript.scanner.nextToken.events,
        error.fault ≠ .unexpectedEnd) →
      transcript.scanner.nextToken.scanner.cursor.text = "") ↔ ¬ table.EndsInsideToken := by
  constructor
  · rintro hall ⟨mode, hmode, text, state, htext, hreads, haccept⟩
    obtain ⟨hended, hway⟩ := Transcript.play_setMode hmode text ()
    have hlost := hall Unit () text [.setMode mode] hended
    have hready := Transcript.ready_play hended
    have hwalk : table.walk mode text =
        text.foldr Walk.extend ⟨[], [], state, table.outcome state (table.classes.classOf none)⟩ := by
      have happend := Automaton.walk_append_of_reads hreads []
      rwa [List.append_nil] at happend
    rw [CharClasses.classOf_none, haccept] at hwalk
    obtain ⟨hstop, hconsumed, _⟩ := Walk.foldr_extend text ⟨[], [], state, .acceptEnd⟩
    rw [← hwalk, ← hway] at hstop hconsumed
    rw [Scanner.nextToken_of_stop_endOfInput hready hstop, Scanner.errors_looked] at hlost
    have hempty := hlost rfl (fun _ herror => absurd herror List.not_mem_nil)
    have hnil := String.ofList_eq_empty_iff.mp ((Scanner.text_moved hready.primed).symm.trans hempty)
    rw [hconsumed] at hnil
    exact htext (List.append_eq_nil_iff.mp hnil).1
  · intro hnot σ memory input operations transcript hended hend hsilent
    obtain ⟨last, earlier, hlast, hends, hevents, hscanner⟩ :=
      Scanner.exists_round_of_isEnd (Transcript.ready_play hended) hend
    have hstop : last.way.stop = .endOfInput := by
      refine Scanner.stop_way_of_silent hlast hends fun error herror => hsilent error ?_
      rw [hevents, Event.errors_append]
      exact List.mem_append_right _ herror
    obtain ⟨_, haccept, _⟩ := Table.start_of_stop_endOfInput
      (Table.lt_stateCount_of_mode last.mode_lt) hstop
    rw [hscanner, Scanner.text_round hlast, (Walk.consumed_left_of_endsInput hends).1]
    by_cases htext : last.way.text = []
    · exact String.ofList_eq_empty_iff.mpr htext
    · exact absurd ⟨last.cursor.mode, last.mode_lt, last.way.text, last.way.state, htext,
        Automaton.reads_walk _ _, haccept⟩ hnot

/-- The definition of a table that goes on from its start state to its start state, and may accept
the end there. -/
def Definition.loop : Definition where
  charClasses := []
  catchAll := 1
  classCount := 2
  modes := 1
  transitions := [[-2, 0]]
  lexemeRules := []
  rules := [⟨"eoi", .emit⟩]

/-- It has no defect. -/
theorem Definition.defect?_loop : Definition.loop.defect? = none := by decide +kernel

/-- In that table the text before the end is lost: nobody is told of it. -/
theorem Table.text_lost_in_loop :
    ∃ table, Table.ofDefinition .loop = .ok table ∧
      let turn := (Scanner.start table ['a'] ()).nextToken
      turn.value.isEnd = true ∧ Event.errors turn.events = [] ∧
        turn.events = [.looked ⟨0, 1, .goto 0⟩, .looked ⟨0, 0, .acceptEnd⟩] ∧
        turn.scanner.cursor.text = "a" := by
  refine ⟨_, Table.ofDefinition_of_defect?_eq_none Definition.defect?_loop, ?_⟩
  decide +kernel

/-- Every use of a scanner reads the whole input before the end is reported, exactly if the table
takes no character for the end. -/
theorem Table.nothing_left_at_end_iff (table : Table) :
    (∀ (σ : Type) (memory : σ) (input : List Char) (operations : List (Operation σ)),
      let transcript := (Transcript.start table input memory).play operations
      transcript.ended = false →
      transcript.scanner.nextToken.value.isEnd = true →
      transcript.scanner.nextToken.scanner.cursor.lookahead = none ∧
        transcript.scanner.nextToken.scanner.cursor.source.unread = []) ↔
      ¬ table.EndsOnCharacter := by
  constructor
  · rintro hall ⟨⟨mode, hmode, haccept⟩, c, hclass⟩
    obtain ⟨hended, hway⟩ := Transcript.play_setMode hmode [c] ()
    have hread := hall Unit () [c] [.setMode mode] hended
    have hready := Transcript.ready_play hended
    have hout : table.outcome mode (table.classes.classOf (some c)) = .acceptEnd := by
      rw [hclass]
      exact haccept
    have hwalk : table.walk mode [c] = ⟨[], [c], mode, .acceptEnd⟩ := by
      rw [Automaton.walk_cons_stay (fun next hgoto => by rw [hout] at hgoto; cases hgoto), hout]
    rw [← hway] at hwalk
    have hstop := congrArg Walk.stop hwalk
    rw [Scanner.nextToken_of_stop_endOfInput hready hstop] at hread
    have hnil := Cursor.unconsumed_eq_nil_iff.mpr (hread rfl)
    have hleft := (Scanner.unconsumed_moved hready.primed).symm.trans hnil
    rw [hwalk] at hleft
    cases hleft
  · intro hnot σ memory input operations transcript hended hend
    obtain ⟨last, _, hlast, hends, _, hscanner⟩ :=
      Scanner.exists_round_of_isEnd (Transcript.ready_play hended) hend
    rw [hscanner, ← Cursor.unconsumed_eq_nil_iff, Scanner.unconsumed_round hlast,
      (Walk.consumed_left_of_endsInput hends).2]
    rcases Stop.eq_of_endsInput hends with hstop | hstop
    · obtain ⟨hmode, haccept, hclass⟩ := Table.start_of_stop_endOfInput
        (Table.lt_stateCount_of_mode last.mode_lt) hstop
      cases hrest : last.way.rest with
      | nil => rfl
      | cons c rest =>
        -- The character behind the way is in class 0, and its state accepts the end.
        have hchar : table.classes.classOf (some c) = 0 := by
          rw [← hclass]
          exact congrArg (fun chars => table.classes.classOf chars.head?) hrest.symm
        exact absurd ⟨⟨_, hmode, haccept⟩, c, hchar⟩ hnot
    · exact Walk.rest_of_stop_unexpectedEnd hstop

/-- In the table for action code NUL is in the class of the end: behind it nothing is scanned. -/
theorem Table.brace_left_behind_nul :
    ∃ table, Table.ofDefinition .braces = .ok table ∧
      let turn := (Scanner.start table ['\x00', '\x7b'] ()).nextToken
      turn.value.isEnd = true ∧ Event.errors turn.events = [] ∧
        turn.scanner.cursor.lookahead = some '\x00' ∧
        turn.scanner.cursor.source.unread = ['\x7b'] := by
  refine ⟨_, Table.ofDefinition_of_defect?_eq_none Definition.defect?_braces, ?_⟩
  decide +kernel

end ScanSchema
