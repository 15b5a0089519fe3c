import ScanSchema.Proofs.Scan.Tokenizer
import ScanSchema.Scan.Listing

/-!
# What the choice of tokens changes

A hook is asked about every match and decides which ones are handed out. It decides about nothing
else: which matches there are, what is reported and where the scanner ends is a matter of the table
and the input. `Table.findAll` is what there is to find, and every drained scanner shows its matches
to the hook one after the other, reports its errors, and hands out what `Hook.kept` leaves of the
matches. The induction goes over the attempts of a drained scanner, as two scanners with different
hooks make the same attempts but end their calls in different places.
-/

namespace ScanSchema

/-- What an event tells of the input: a match that the hook is asked about, or an error. -/
def Event.finding? : Event → Option Finding
  | .shown token => some (.token token)
  | .failed error => some (.error error)
  | _ => none

/-- The matches that were shown to the hook are those among the findings. -/
theorem Event.shownTokens_eq (events : List Event) :
    shownTokens events = (events.filterMap finding?).filterMap Finding.token? := by
  rw [shownTokens, List.filterMap_filterMap]
  refine congrArg (List.filterMap · events) (funext fun event => ?_)
  cases event <;> rfl

/-- The tokens that a predicate keeps of some tokens, which it is asked about in turn. -/
def Hook.kept {σ : Type} (keep : Hook σ) (memory : σ) : List Token → List Token
  | [] => []
  | token :: rest =>
    (if (keep memory token).1 then [token] else []) ++ kept keep (keep memory token).2 rest

/-- A predicate that goes by the token alone keeps the tokens that fulfil it. -/
theorem Hook.kept_eq_filter {σ : Type} {keep : Hook σ} {wanted : Token → Bool}
    (h : ∀ memory token, (keep memory token).1 = wanted token) (memory : σ) (tokens : List Token) :
    keep.kept memory tokens = tokens.filter wanted := by
  induction tokens generalizing memory with
  | nil => rfl
  | cons token rest ih =>
    rw [kept, ih, h, List.filter_cons]
    cases wanted token <;> rfl

namespace Table

variable {table : Table} {σ : Type} {keep : Hook σ} {mode : Fin table.modeCount} {memory : σ}
  {location : Location} {chars text rest : List Char} {state lexeme : Nat} {c : Char}

/-- All matches and errors of some characters, in order, whatever becomes of the matches. -/
def findAll (table : Table) (mode : Fin table.modeCount) (location : Location)
    (chars : List Char) : List Finding :=
  table.tokenize Listing.keepAll mode () location chars

/-- The predicate that keeps the tokens of rules that are not skipped. -/
def emits (table : Table) : Hook Unit := fun _ token => (table.ruleAction token.rule == .emit, ())

section Equations

/-- A match is found first if it is kept, and the others behind it. -/
theorem tokenize_of_accept (hwalk : table.walk mode chars = ⟨text, rest, state, .accept lexeme⟩) :
    table.tokenize keep mode memory location chars =
      (if (keep memory (table.tokenAt location lexeme text)).1 then
        [.token (table.tokenAt location lexeme text)] else []) ++
        table.tokenize keep mode (keep memory (table.tokenAt location lexeme text)).2
          (location.after text) rest := by
  rw [tokenize]
  split
  case h_1 hwalk' =>
    cases hwalk.symm.trans hwalk'
    split
    next hkeep => rw [hkeep]; rfl
    next hkeep => rw [hkeep]; rfl
  all_goals
    rename_i hwalk'
    cases hwalk.symm.trans hwalk'

/-- A text that no rule matches is found first, and the others behind it. -/
theorem tokenize_of_reject (hwalk : table.walk mode chars = ⟨text, c :: rest, state, .reject⟩) :
    table.tokenize keep mode memory location chars =
      .error (.invalidAt location (text ++ [c])) ::
        table.tokenize keep mode memory (location.after (text ++ [c])) rest := by
  rw [tokenize]
  split
  case h_2 hwalk' =>
    cases hwalk.symm.trans hwalk'
    rfl
  all_goals
    rename_i hwalk'
    cases hwalk.symm.trans hwalk'

/-- A token that the end leaves unfinished is the last thing to be found. -/
theorem tokenize_of_unexpectedEnd (hwalk : table.walk mode chars = ⟨text, [], state, .reject⟩) :
    table.tokenize keep mode memory location chars = [.error (.unexpectedEndAt location)] := by
  rw [tokenize]
  split
  case h_3 => rfl
  all_goals
    rename_i hwalk'
    cases hwalk.symm.trans hwalk'

/-- Where the end is accepted, nothing more is found. -/
theorem tokenize_of_acceptEnd (hwalk : table.walk mode chars = ⟨text, rest, state, .acceptEnd⟩) :
    table.tokenize keep mode memory location chars = [] := by
  rw [tokenize]
  split
  case h_4 => rfl
  all_goals
    rename_i hwalk'
    cases hwalk.symm.trans hwalk'

end Equations

/-- A predicate has no say in what is found: the tokens are those that it keeps of all matches, and
the errors are all errors. -/
theorem tokenize_eq_kept (keep : Hook σ) (mode : Fin table.modeCount) (memory : σ)
    (location : Location) (chars : List Char) :
    (table.tokenize keep mode memory location chars).filterMap Finding.token? =
        keep.kept memory ((table.findAll mode location chars).filterMap Finding.token?) ∧
      (table.tokenize keep mode memory location chars).filterMap Finding.error? =
        (table.findAll mode location chars).filterMap Finding.error? := by
  unfold findAll
  fun_induction table.tokenize Listing.keepAll mode () location chars generalizing memory with
  | case1 _ location chars text rest state lexeme hwalk _ _ ih =>
    obtain ⟨ihtokens, iherrors⟩ := ih (keep memory (table.tokenAt location lexeme text)).2
    have hfirst : ∀ (isKept : Bool) (token : Token),
        (if isKept then [Finding.token token] else []).filterMap Finding.token? =
            (if isKept then [token] else []) ∧
          (if isKept then [Finding.token token] else []).filterMap Finding.error? = [] := by
      intro isKept token
      cases isKept <;> exact ⟨rfl, rfl⟩
    rw [tokenize_of_accept hwalk, List.filterMap_append, List.filterMap_append, ihtokens, iherrors,
      (hfirst _ _).1, (hfirst _ _).2]
    exact ⟨rfl, rfl⟩
  | case2 _ _ _ _ _ _ _ _ _ hkeep => cases hkeep
  | case3 _ location chars text c rest state hwalk ih =>
    rw [tokenize_of_reject hwalk]
    exact ⟨(ih memory).1, congrArg (_ :: ·) (ih memory).2⟩
  | case4 _ location chars text state hwalk =>
    rw [tokenize_of_unexpectedEnd hwalk]
    exact ⟨rfl, rfl⟩
  | case5 _ location chars text rest state hwalk =>
    rw [tokenize_of_acceptEnd hwalk]
    exact ⟨rfl, rfl⟩
  | case6 _ location chars text rest state next hwalk =>
    exact absurd (congrArg Walk.outcome hwalk)
      (Table.outcome_walk_ne_goto (Table.lt_stateCount_of_mode mode.isLt) chars next)

end Table

namespace Scanner

variable {table : Table} {σ τ : Type} {scanner : Scanner table σ}

/-- A scanner at the start of an input in a mode, with a hook or without. -/
def startIn (mode : Fin table.modeCount) (input : List Char) (hook : Option (Hook σ)) (memory : σ) :
    Scanner table σ where
  cursor := { Cursor.start input with mode := mode.val }
  mode_lt := mode.isLt
  hook
  memory

/-- That is what setting the mode makes of a new scanner. -/
theorem setMode_start (mode : Fin table.modeCount) (input : List Char) (hook : Option (Hook σ))
    (memory : σ) :
    ({ Scanner.start table input memory with hook } : Scanner table σ).setMode mode =
      .ok ⟨(), [.modeSet 0 mode], startIn mode input hook memory⟩ := dif_pos mode.isLt

/-- Such a scanner stands in front of the whole input. -/
theorem stands_startIn (mode : Fin table.modeCount) (input : List Char) (hook : Option (Hook σ))
    (memory : σ) :
    (startIn mode input hook memory).Stands (table.keeper hook) mode memory .start input where
  ready := ⟨Cursor.primed_start input, rfl⟩
  keeper := rfl
  mode := rfl
  memory := rfl
  location := rfl
  unconsumed := Cursor.unconsumed_start input

section Draining

/-- A drain is over once the next token is the end. -/
theorem drain_of_isEnd (h : scanner.nextToken.value.isEnd = true) :
    scanner.drain = ⟨[], scanner.nextToken.events, scanner.nextToken.scanner⟩ := by
  rw [drain, dif_pos h]

/-- Otherwise it goes on behind the next token. -/
theorem drain_of_isEnd_eq_false (h : scanner.nextToken.value.isEnd = false) :
    scanner.drain =
      ⟨scanner.nextToken.value :: scanner.nextToken.scanner.drain.value,
        scanner.nextToken.events ++ scanner.nextToken.scanner.drain.events,
        scanner.nextToken.scanner.drain.scanner⟩ := by
  rw [drain, dif_neg (Bool.eq_false_iff.mp h)]

/-- If the next attempt ends the input, it is the last one of a drained scanner. -/
theorem drain_of_ends (h : scanner.Ready) (hends : scanner.way.stop.endsInput = true) :
    scanner.drain = ⟨[], scanner.round.events, scanner.round.scanner⟩ := by
  have hend := any_isEnd_round h.primed
  rw [hends] at hend
  cases hround : scanner.round.value with
  | none =>
    rw [hround] at hend
    cases hend
  | some token =>
    rw [hround] at hend
    have hnext := nextToken_of_round_some h.live hround
    rw [drain_of_isEnd (by rw [hnext]; exact hend), hnext]

/-- Otherwise a drained scanner goes on behind it, with the token of the attempt if it has one. -/
theorem drain_of_goes (h : scanner.Ready) (hgoes : scanner.way.stop.endsInput = false) :
    scanner.drain =
      ⟨scanner.round.value.toList ++ scanner.round.scanner.drain.value,
        scanner.round.events ++ scanner.round.scanner.drain.events,
        scanner.round.scanner.drain.scanner⟩ := by
  have hend := any_isEnd_round h.primed
  rw [hgoes] at hend
  cases hround : scanner.round.value with
  | none =>
    have hnext := nextToken_of_round_none h.live hround
    cases hlast : scanner.round.scanner.nextToken.value.isEnd with
    | true =>
      rw [drain_of_isEnd (by rw [hnext]; exact hlast), drain_of_isEnd hlast, hnext]
      rfl
    | false =>
      rw [drain_of_isEnd_eq_false (by rw [hnext]; exact hlast), drain_of_isEnd_eq_false hlast,
        hnext, List.append_assoc]
      rfl
  | some token =>
    rw [hround] at hend
    have hnext := nextToken_of_round_some h.live hround
    rw [drain_of_isEnd_eq_false (by rw [hnext]; exact hend), hnext]
    rfl

/-- What holds of a last attempt, and of an attempt before a drained scanner of which it holds, holds
of every drained scanner. -/
theorem drain_induct {motive : Scanner table σ → Turn table σ (List Token) → Prop}
    (ends : ∀ scanner : Scanner table σ, scanner.Ready → scanner.way.stop.endsInput = true →
      motive scanner ⟨[], scanner.round.events, scanner.round.scanner⟩)
    (goes : ∀ scanner : Scanner table σ, scanner.Ready → scanner.way.stop.endsInput = false →
      motive scanner.round.scanner scanner.round.scanner.drain →
      motive scanner
        ⟨scanner.round.value.toList ++ scanner.round.scanner.drain.value,
          scanner.round.events ++ scanner.round.scanner.drain.events,
          scanner.round.scanner.drain.scanner⟩)
    (scanner : Scanner table σ) (h : scanner.Ready) : motive scanner scanner.drain := by
  cases hstop : scanner.way.stop.endsInput with
  | true =>
    rw [drain_of_ends h hstop]
    exact ends scanner h hstop
  | false =>
    have hready : scanner.round.scanner.Ready :=
      ⟨primed_round h, by rw [cursor_round h]; exact hstop⟩
    have hrest := drain_induct ends goes scanner.round.scanner hready
    rw [drain_of_goes h hstop]
    exact goes scanner h hstop hrest
termination_by scanner.cursor.remaining
decreasing_by exact remaining_round_lt ((congrArg Stop.endsInput (stop_attempt h.primed)).trans hstop)

end Draining

section Hooked

variable {keep : Hook σ} {mode : Fin table.modeCount} {memory : σ} {location : Location}
  {chars : List Char}

/-- Looking up an outcome finds nothing yet. -/
theorem filterMap_finding?_looked (scanner : Scanner table σ) :
    scanner.looked.filterMap Event.finding? = [] := by
  rw [looked, List.filterMap_map, List.filterMap_eq_nil_iff]
  exact fun _ _ => rfl

/-- A hook is asked once about a match, and about nothing else. -/
theorem events_judged (hhook : scanner.hook = some keep) (lexeme : Nat) :
    (scanner.judged lexeme).events = [.shown (scanner.candidate lexeme)] := by
  have hmoved : scanner.moved.hook = some keep := hhook
  rw [judged, judge, hmoved]

/-- What is found in an attempt that matches a lexeme is the match, whatever the hook says. -/
theorem filterMap_finding?_round_of_matched (hhook : scanner.hook = some keep) {lexeme : Nat}
    (hstop : scanner.attempt.stop = .matched lexeme) :
    scanner.round.events.filterMap Event.finding? = [.token (scanner.candidate lexeme)] := by
  have hfound : (scanner.looked ++ (scanner.judged lexeme).events).filterMap Event.finding? =
      [.token (scanner.candidate lexeme)] := by
    rw [List.filterMap_append, filterMap_finding?_looked, events_judged hhook]
    rfl
  cases hjudge : (scanner.judged lexeme).value with
  | true => rw [round_of_kept hstop hjudge, hfound]
  | false =>
    rw [round_of_dropped hstop hjudge, List.filterMap_append, hfound]
    rfl

/-- A drained scanner with a hook finds all that is to be found, and shows every match once. -/
theorem filterMap_finding?_drain (h : scanner.Stands keep mode memory location chars)
    (hhook : scanner.hook = some keep) :
    scanner.drain.events.filterMap Event.finding? = table.findAll mode location chars := by
  unfold Table.findAll
  fun_induction Table.tokenize table Listing.keepAll mode () location chars
    generalizing scanner memory with
  | case1 _ location chars text rest state lexeme hwalk _ _ ih =>
    have hstop : scanner.attempt.stop = .matched lexeme := by
      rw [stop_of_stands h, hwalk]
      rfl
    have hgoes : (table.walk mode chars).stop.endsInput = false := by
      rw [hwalk]
      rfl
    have hstands := stands_round h hgoes
    have hcandidate := candidate_of_stands h lexeme
    rw [drain_of_goes h.ready (by rw [way_of_stands h]; exact hgoes)]
    rw [hwalk] at hstands hcandidate
    rw [List.filterMap_append, filterMap_finding?_round_of_matched hhook hstop, hcandidate,
      ih hstands (by rw [hook_round]; exact hhook)]
    rfl
  | case2 _ _ _ _ _ _ _ _ _ hkeep => cases hkeep
  | case3 _ location chars text c rest state hwalk ih =>
    have hgoes : (table.walk mode chars).stop.endsInput = false := by
      rw [hwalk]
      rfl
    have hstop : scanner.attempt.stop = .invalid := by
      rw [stop_of_stands h, hwalk]
      rfl
    have hstands := stands_round h hgoes
    have hrejected := rejected_of_stands h
    rw [drain_of_goes h.ready (by rw [way_of_stands h]; exact hgoes)]
    rw [hwalk] at hstands hrejected
    rw [List.filterMap_append, ih hstands (by rw [hook_round]; exact hhook), round_of_invalid hstop,
      List.filterMap_append, filterMap_finding?_looked, hrejected]
    rfl
  | case4 _ location chars text state hwalk =>
    have hstop : scanner.attempt.stop = .unexpectedEnd := by
      rw [stop_of_stands h, hwalk]
      rfl
    rw [drain_of_ends h.ready (by rw [way_of_stands h, hwalk]; rfl), round_of_unexpectedEnd hstop,
      List.filterMap_append, filterMap_finding?_looked, errorHere_of_stands h]
    rfl
  | case5 _ location chars text rest state hwalk =>
    have hstop : scanner.attempt.stop = .endOfInput := by
      rw [stop_of_stands h, hwalk]
      rfl
    rw [drain_of_ends h.ready (by rw [way_of_stands h, hwalk]; rfl), round_of_endOfInput hstop,
      filterMap_finding?_looked]
  | case6 _ location chars text rest state next hwalk =>
    exact absurd (congrArg Walk.outcome hwalk)
      (Table.outcome_walk_ne_goto (Table.lt_stateCount_of_mode mode.isLt) chars next)

end Hooked

section Cursors

/-- The way of an attempt, and so where the attempt ends, depends on the cursor alone. -/
theorem cursor_round_eq (h : scanner.Ready) {other : Scanner table τ}
    (hcursor : other.cursor = scanner.cursor) :
    other.Ready ∧ other.way = scanner.way ∧
      other.round.scanner.cursor = scanner.round.scanner.cursor := by
  have hready : other.Ready := ⟨hcursor ▸ h.primed, hcursor ▸ h.live⟩
  have hway : other.way = scanner.way := by rw [way, way, hcursor]
  refine ⟨hready, hway, ?_⟩
  rw [cursor_round hready, cursor_round h, hway, hcursor]

/-- Scanners at the same cursor end at the same cursor, whatever their hooks are. -/
theorem cursor_drain_eq (h : scanner.Ready) {other : Scanner table τ}
    (hcursor : other.cursor = scanner.cursor) :
    other.drain.scanner.cursor = scanner.drain.scanner.cursor := by
  refine drain_induct (motive := fun scanner turn => ∀ other : Scanner table τ,
    other.cursor = scanner.cursor → other.drain.scanner.cursor = turn.scanner.cursor)
    ?ends ?goes scanner h other hcursor
  case ends =>
    intro scanner hready hends other hcursor
    obtain ⟨hother, hway, hround⟩ := cursor_round_eq hready hcursor
    rw [drain_of_ends hother (by rw [hway]; exact hends)]
    exact hround
  case goes =>
    intro scanner hready hgoes ih other hcursor
    obtain ⟨hother, hway, hround⟩ := cursor_round_eq hready hcursor
    rw [drain_of_goes hother (by rw [hway]; exact hgoes)]
    exact ih other.round.scanner hround

end Cursors

/-- A drained scanner hands out what the predicate keeps of all matches, and reports all errors. -/
theorem drain_of_stands {keep : Hook σ} {mode : Fin table.modeCount} {memory : σ}
    {location : Location} {chars : List Char}
    (h : scanner.Stands keep mode memory location chars) :
    scanner.drain.value =
        keep.kept memory ((table.findAll mode location chars).filterMap Finding.token?) ∧
      Event.errors scanner.drain.events =
        (table.findAll mode location chars).filterMap Finding.error? := by
  obtain ⟨htokens, herrors⟩ := filterMap_findings scanner
  obtain ⟨hkept, hall⟩ := table.tokenize_eq_kept keep mode memory location chars
  rw [← htokens, ← herrors, findings_of_stands h]
  exact ⟨hkept, hall⟩

/-- No match stands for the end of the input. -/
theorem isEnd_of_mem_findAll {mode : Fin table.modeCount} {location : Location} {chars : List Char}
    {token : Token} (h : token ∈ (table.findAll mode location chars).filterMap Finding.token?) :
    token.isEnd = false := by
  unfold Table.findAll at h
  fun_induction Table.tokenize table Listing.keepAll mode () location chars with
  | case1 _ location chars text rest state lexeme hwalk _ _ ih =>
    rcases List.mem_cons.mp h with rfl | hrest
    · exact Table.isEnd_lexemeRule_of_stop (Table.lt_stateCount_of_mode mode.isLt)
        (Walk.stop_eq_matched_iff.mpr (congrArg Walk.outcome hwalk))
    · exact ih hrest
  | case2 _ _ _ _ _ _ _ _ _ hkeep => cases hkeep
  | case3 _ _ _ _ _ _ _ _ ih => exact ih h
  | case4 => exact absurd h List.not_mem_nil
  | case5 => exact absurd h List.not_mem_nil
  | case6 => exact absurd h List.not_mem_nil

end Scanner

/-- The hook of a listing: it keeps every token, or leaves the choice to the rules. -/
def Listing.hook (all : Bool) : Option (Hook Unit) := if all then some keepAll else none

/-- A listing keeps all tokens, or those whose rules emit them. -/
theorem Listing.kept_keeper_hook (table : Table) (all : Bool) (tokens : List Token) :
    (table.keeper (hook all)).kept () tokens =
      tokens.filter fun token => all || table.ruleAction token.rule == .emit := by
  refine Hook.kept_eq_filter (fun _ _ => ?_) () tokens
  cases all <;> rfl

/-- A listing shows the matches of the source, all of them or those of rules that are not skipped,
and is about all errors of the source. -/
theorem Listing.ofSource_eq_ok (table : Table) (source : String) (mode : Fin table.modeCount)
    (all : Bool) :
    let found := table.findAll mode .start source.toList
    ofSource table source mode all =
      .ok
        { lines := ((found.filterMap Finding.token?).filter fun token =>
            all || table.ruleAction token.rule == .emit).map (line table)
          diagnostics := ⟨(found.filterMap Finding.error?).map LexicalError.toDiagnostic⟩ } := by
  intro found
  have hdrained : ofSource table source mode all =
      .ok
        { lines :=
            (Scanner.startIn mode source.toList (hook all) ()).drain.value.map (line table)
          diagnostics :=
            ⟨(Event.errors (Scanner.startIn mode source.toList (hook all) ()).drain.events).map
              LexicalError.toDiagnostic⟩ } := by
    have hset : (Scanner.start table source.toList ()).setMode mode = _ :=
      Scanner.setMode_start mode source.toList none ()
    rw [ofSource, hset]
    cases all <;> rfl
  obtain ⟨htokens, herrors⟩ :=
    Scanner.drain_of_stands (Scanner.stands_startIn mode source.toList (hook all) ())
  rw [hdrained, htokens, herrors, kept_keeper_hook]

/-- A mode that the table does not have is refused, whatever is to be shown. -/
theorem Listing.ofSource_of_le (table : Table) (source : String) {mode : Nat}
    (h : table.modeCount ≤ mode) (all : Bool) :
    ofSource table source mode all = .error ⟨mode, table.modeCount⟩ := by
  have hset : (Scanner.start table source.toList ()).setMode mode =
      .error (.modeOutOfRange mode table.modeCount) := dif_neg (Nat.not_lt.mpr h)
  rw [ofSource, hset]

/-- From every mode and for every source, hooks have no influence on what is found: with any hook a
drained scanner shows the same matches, each of them once, reports the same errors between them, and
ends at the same cursor. It hands out what the hook keeps of the matches that it was shown, and none
of these stands for the end of the input. Without a hook a scanner brings the same as with the one
that goes by the actions of the rules. So a listing of all tokens and one without the tokens of
skipped rules differ by these tokens, and by nothing else. -/
theorem Scanner.hook_only_selects (table : Table) (source : String) :
    (∀ mode : Fin table.modeCount,
      let found := table.findAll mode .start source.toList
      let tokens := found.filterMap Finding.token?
      let plain := (startIn mode source.toList none ()).drain
      let emitting := (startIn mode source.toList (some table.emits) ()).drain
      (∀ (σ : Type) (hook : Hook σ) (memory : σ),
        let drained := (startIn mode source.toList (some hook) memory).drain
        drained.events.filterMap Event.finding? = found ∧
          drained.value = hook.kept memory (Event.shownTokens drained.events) ∧
          (∀ token ∈ Event.shownTokens drained.events, token.isEnd = false) ∧
          drained.scanner.cursor = plain.scanner.cursor) ∧
      (plain.value = emitting.value ∧
        Event.errors plain.events = Event.errors emitting.events ∧
        plain.scanner.cursor = emitting.scanner.cursor) ∧
      ∃ diagnostics : Diagnostics,
        Listing.ofSource table source mode true =
            .ok ⟨tokens.map (Listing.line table), diagnostics⟩ ∧
          Listing.ofSource table source mode false =
            .ok ⟨(tokens.filter fun token => table.ruleAction token.rule ≠ .skip).map
              (Listing.line table), diagnostics⟩) ∧
    ∀ mode, table.modeCount ≤ mode → ∀ all,
      Listing.ofSource table source mode all = .error ⟨mode, table.modeCount⟩ := by
  refine ⟨fun mode => ?_, fun mode hmode => Listing.ofSource_of_le table source hmode⟩
  intro found tokens plain emitting
  have hcursor : ∀ (σ : Type) (hook : Hook σ) (memory : σ),
      (startIn mode source.toList (some hook) memory).drain.scanner.cursor =
        plain.scanner.cursor := fun σ hook memory =>
    cursor_drain_eq (stands_startIn mode source.toList none ()).ready rfl
  refine ⟨fun σ hook memory => ?hooked, ⟨?tokens, ?errors, (hcursor Unit _ ()).symm⟩, ?listing⟩
  case hooked =>
    intro drained
    have hstands := stands_startIn mode source.toList (some hook) memory
    have hfound : drained.events.filterMap Event.finding? = found :=
      filterMap_finding?_drain hstands rfl
    have hshown : Event.shownTokens drained.events = tokens := by
      rw [Event.shownTokens_eq, hfound]
    rw [hshown]
    exact ⟨hfound, (drain_of_stands hstands).1, fun token => isEnd_of_mem_findAll,
      hcursor σ hook memory⟩
  case tokens =>
    exact (drain_of_stands (stands_startIn mode source.toList none ())).1.trans
      (drain_of_stands (stands_startIn mode source.toList (some table.emits) ())).1.symm
  case errors =>
    exact (drain_of_stands (stands_startIn mode source.toList none ())).2.trans
      (drain_of_stands (stands_startIn mode source.toList (some table.emits) ())).2.symm
  case listing =>
    have hskip : ∀ token : Token, (false || table.ruleAction token.rule == .emit) =
        decide (table.ruleAction token.rule ≠ .skip) := by
      intro token
      cases table.ruleAction token.rule <;> rfl
    refine ⟨⟨(found.filterMap Finding.error?).map LexicalError.toDiagnostic⟩, ?_, ?_⟩
    · have hall : tokens.filter (fun token => true || table.ruleAction token.rule == .emit) =
          tokens := List.filter_eq_self.mpr fun _ _ => rfl
      rw [Listing.ofSource_eq_ok, hall]
    · rw [Listing.ofSource_eq_ok, List.filter_congr fun token _ => hskip token]

end ScanSchema
