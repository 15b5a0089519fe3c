import ScanSchema.Proofs.Scan.Reading
import ScanSchema.Scan.Drain

/-!
# One attempt of a scanner

`Scanner.nextToken` makes attempts until one answers. `Scanner.round` is one of these attempts with
all it brings, and `Scanner.nextToken_induct` is the one induction over them: whatever holds of a
round, and is handed on from the calls behind it, holds of the whole call. What a round does is said
here once, in terms of the walk over the characters that remain.
-/

namespace ScanSchema

/-- Whether an attempt that stops so ends the input. -/
def Stop.endsInput : Stop → Bool
  | .endOfInput | .unexpectedEnd => true
  | .invalid | .matched _ => false

/-- An attempt that ends the input accepts its end or is cut off by it. -/
theorem Stop.eq_of_endsInput {stop : Stop} (h : stop.endsInput = true) :
    stop = .endOfInput ∨ stop = .unexpectedEnd := by
  cases stop with
  | endOfInput => exact .inl rfl
  | unexpectedEnd => exact .inr rfl
  | invalid => cases h
  | matched lexeme => cases h

/-- On a way that ends the input no character is rejected. -/
theorem Walk.consumed_left_of_endsInput {walk : Walk} (h : walk.stop.endsInput = true) :
    walk.consumed = walk.text ∧ walk.left = walk.rest := by
  obtain ⟨text, rest, state, outcome⟩ := walk
  cases outcome with
  | reject =>
    cases rest with
    | nil => exact ⟨rfl, rfl⟩
    | cons c rest => cases h
  | goto next => exact ⟨rfl, rfl⟩
  | acceptEnd => exact ⟨rfl, rfl⟩
  | accept lexeme => exact ⟨rfl, rfl⟩

/-- The errors among two lists of events, one behind the other, are those of both in turn. -/
theorem Event.errors_append (front back : List Event) :
    errors (front ++ back) = errors front ++ errors back := List.filterMap_append

namespace Cursor

/-- The line of a token is that of its first character. -/
theorem tokenLine_advance (cursor : Cursor) : cursor.advance.tokenLine = cursor.tokenLine := by
  unfold advance
  split <;> rfl

end Cursor

namespace Automaton

variable {automaton : Automaton} {state : Nat} {cursor : Cursor}

/-- An attempt leaves the line in which its token began. -/
theorem tokenLine_run : (automaton.run state cursor).cursor.tokenLine = cursor.tokenLine := by
  fun_induction automaton.run state cursor with
  | case1 _ cursor _ _ _ _ _ _ _ _ ih => exact ih.trans cursor.tokenLine_advance
  | case2 _ cursor => exact cursor.tokenLine_advance
  | _ => rfl

end Automaton

namespace Scanner

variable {table : Table} {σ : Type}

/-- The look-ups of the next attempt, as events. -/
def looked (scanner : Scanner table σ) : List Event := scanner.attempt.lookups.map .looked

/-- The scanner behind its next attempt. -/
def moved (scanner : Scanner table σ) : Scanner table σ :=
  scanner.moveTo scanner.attempt.cursor scanner.mode_attempt

/-- An error about the token that would start here. -/
def errorHere (scanner : Scanner table σ) (fault : LexicalFault) : LexicalError :=
  ⟨scanner.cursor.offset, scanner.cursor.line, fault⟩

/-- The token of the next attempt, if it matches a lexeme. -/
def candidate (scanner : Scanner table σ) (lexeme : Nat) : Token :=
  ⟨table.lexemeRule lexeme, scanner.moved.cursor.text, scanner.cursor.offset, scanner.cursor.line⟩

/-- What the hook, or the action of the rule, says about that token. -/
def judged (scanner : Scanner table σ) (lexeme : Nat) : Turn table σ Bool :=
  scanner.moved.judge (scanner.candidate lexeme)

/-- What the next attempt drops, if it is invalid, and the line behind that. -/
def rejected (scanner : Scanner table σ) : LexicalFault :=
  .invalidToken scanner.moved.cursor.line scanner.moved.cursor.text

/-- One attempt, with a token if it ends the call and without if the call goes on. -/
def round (scanner : Scanner table σ) : Turn table σ (Option Token) :=
  match scanner.attempt.stop with
  | .endOfInput => ⟨some scanner.endToken, scanner.looked, scanner.moved.exhaust⟩
  | .unexpectedEnd =>
    ⟨some scanner.endToken, scanner.looked ++ [.failed (scanner.errorHere .unexpectedEnd)],
      scanner.moved.exhaust⟩
  | .invalid =>
    ⟨none, scanner.looked ++ [.failed (scanner.errorHere scanner.rejected)], scanner.moved⟩
  | .matched lexeme =>
    let token := scanner.candidate lexeme
    let judged := scanner.judged lexeme
    if judged.value then ⟨some token, scanner.looked ++ judged.events, judged.scanner⟩
    else ⟨none, scanner.looked ++ judged.events ++ [.dropped token], judged.scanner⟩

section Cases

variable {scanner : Scanner table σ}

/-- Where the end is accepted, the token of the end ends the round. -/
theorem round_of_endOfInput (h : scanner.attempt.stop = .endOfInput) :
    scanner.round = ⟨some scanner.endToken, scanner.looked, scanner.moved.exhaust⟩ := by
  rw [round, h]

/-- An unfinished token is reported, and the token of the end ends the round too. -/
theorem round_of_unexpectedEnd (h : scanner.attempt.stop = .unexpectedEnd) :
    scanner.round =
      ⟨some scanner.endToken, scanner.looked ++ [.failed (scanner.errorHere .unexpectedEnd)],
        scanner.moved.exhaust⟩ := by
  rw [round, h]

/-- A text that no rule matches is reported and dropped, and the call goes on. -/
theorem round_of_invalid (h : scanner.attempt.stop = .invalid) :
    scanner.round =
      ⟨none, scanner.looked ++ [.failed (scanner.errorHere scanner.rejected)], scanner.moved⟩ := by
  rw [round, h]

/-- A token that is kept ends the round. -/
theorem round_of_kept {lexeme : Nat} (h : scanner.attempt.stop = .matched lexeme)
    (hkept : (scanner.judged lexeme).value = true) :
    scanner.round =
      ⟨some (scanner.candidate lexeme), scanner.looked ++ (scanner.judged lexeme).events,
        (scanner.judged lexeme).scanner⟩ := by
  rw [round, h]
  exact if_pos hkept

/-- After a token that is not kept, the call goes on. -/
theorem round_of_dropped {lexeme : Nat} (h : scanner.attempt.stop = .matched lexeme)
    (hdropped : (scanner.judged lexeme).value = false) :
    scanner.round =
      ⟨none,
        scanner.looked ++ (scanner.judged lexeme).events ++ [.dropped (scanner.candidate lexeme)],
        (scanner.judged lexeme).scanner⟩ := by
  rw [round, h]
  exact if_neg (by rw [hdropped]; exact Bool.false_ne_true)

/-- The five ways in which a round can go. -/
inductive Rounds (scanner : Scanner table σ) : Turn table σ (Option Token) → Prop where
  /-- The input ends between two tokens. -/
  | endOfInput (hstop : scanner.attempt.stop = .endOfInput) :
    Rounds scanner ⟨some scanner.endToken, scanner.looked, scanner.moved.exhaust⟩
  /-- The input ends inside a token. -/
  | unexpectedEnd (hstop : scanner.attempt.stop = .unexpectedEnd) :
    Rounds scanner
      ⟨some scanner.endToken, scanner.looked ++ [.failed (scanner.errorHere .unexpectedEnd)],
        scanner.moved.exhaust⟩
  /-- Some text is reported and dropped. -/
  | invalid (hstop : scanner.attempt.stop = .invalid) :
    Rounds scanner
      ⟨none, scanner.looked ++ [.failed (scanner.errorHere scanner.rejected)], scanner.moved⟩
  /-- A token is handed out. -/
  | kept (lexeme : Nat) (hstop : scanner.attempt.stop = .matched lexeme)
    (hkept : (scanner.judged lexeme).value = true) :
    Rounds scanner
      ⟨some (scanner.candidate lexeme), scanner.looked ++ (scanner.judged lexeme).events,
        (scanner.judged lexeme).scanner⟩
  /-- A token is dropped. -/
  | dropped (lexeme : Nat) (hstop : scanner.attempt.stop = .matched lexeme)
    (hdropped : (scanner.judged lexeme).value = false) :
    Rounds scanner
      ⟨none,
        scanner.looked ++ (scanner.judged lexeme).events ++ [.dropped (scanner.candidate lexeme)],
        (scanner.judged lexeme).scanner⟩

/-- Every round goes in one of the five ways. -/
theorem rounds_round (scanner : Scanner table σ) : scanner.Rounds scanner.round := by
  cases hstop : scanner.attempt.stop with
  | endOfInput => rw [round_of_endOfInput hstop]; exact .endOfInput hstop
  | unexpectedEnd => rw [round_of_unexpectedEnd hstop]; exact .unexpectedEnd hstop
  | invalid => rw [round_of_invalid hstop]; exact .invalid hstop
  | matched lexeme =>
    cases hjudge : (scanner.judged lexeme).value with
    | true => rw [round_of_kept hstop hjudge]; exact .kept lexeme hstop hjudge
    | false => rw [round_of_dropped hstop hjudge]; exact .dropped lexeme hstop hjudge

/-- What becomes of a token that began at `offset`, once its attempt has stopped where the scanner
stands: the end of the input, an error, or a match that is handed out or dropped. -/
def conclude (scanner : Scanner table σ) (offset : Nat) (stop : Stop) :
    Turn table σ (Option Token) :=
  let line := scanner.cursor.tokenLine
  match stop with
  | .endOfInput => ⟨some (.endOfInput offset line), [], scanner.exhaust⟩
  | .unexpectedEnd =>
    ⟨some (.endOfInput offset line), [.failed ⟨offset, line, .unexpectedEnd⟩], scanner.exhaust⟩
  | .invalid =>
    let fault := LexicalFault.invalidToken scanner.cursor.line scanner.cursor.text
    ⟨none, [.failed ⟨offset, line, fault⟩], scanner⟩
  | .matched lexeme =>
    let token : Token := ⟨table.lexemeRule lexeme, scanner.cursor.text, offset, line⟩
    let judged := scanner.judge token
    if judged.value then ⟨some token, judged.events, judged.scanner⟩
    else ⟨none, judged.events ++ [.dropped token], judged.scanner⟩

/-- A round looks outcomes up until its attempt stops, and is concluded there. -/
theorem round_eq_conclude (scanner : Scanner table σ) :
    scanner.round =
      { scanner.moved.conclude scanner.cursor.offset scanner.attempt.stop with
        events := scanner.looked ++
          (scanner.moved.conclude scanner.cursor.offset scanner.attempt.stop).events } := by
  have hline : scanner.moved.cursor.tokenLine = scanner.cursor.line := Automaton.tokenLine_run
  have hrounds := scanner.rounds_round
  generalize scanner.round = turn at hrounds ⊢
  cases hrounds with
  | endOfInput hstop =>
    rw [hstop, conclude, hline, List.append_nil]
    rfl
  | unexpectedEnd hstop =>
    rw [hstop, conclude, hline]
    rfl
  | invalid hstop =>
    rw [hstop, conclude, hline]
    rfl
  | kept lexeme hstop hkept =>
    have hconclude : scanner.moved.conclude scanner.cursor.offset (.matched lexeme) =
        ⟨some (scanner.candidate lexeme), (scanner.judged lexeme).events,
          (scanner.judged lexeme).scanner⟩ := by
      rw [conclude, hline]
      exact if_pos hkept
    rw [hstop, hconclude]
  | dropped lexeme hstop hdropped =>
    have hconclude : scanner.moved.conclude scanner.cursor.offset (.matched lexeme) =
        ⟨none, (scanner.judged lexeme).events ++ [.dropped (scanner.candidate lexeme)],
          (scanner.judged lexeme).scanner⟩ := by
      rw [conclude, hline]
      exact if_neg (Bool.eq_false_iff.mp hdropped)
    rw [hstop, hconclude, List.append_assoc]

/-- The end of an attempt leaves the scanner where it is; it may mark the end of the input. -/
theorem cursor_conclude (scanner : Scanner table σ) (offset : Nat) (stop : Stop) :
    (scanner.conclude offset stop).scanner.cursor =
      { scanner.cursor with exhausted := stop.endsInput || scanner.cursor.exhausted } := by
  unfold conclude
  cases stop with
  | endOfInput => rfl
  | unexpectedEnd => rfl
  | invalid => rfl
  | matched lexeme =>
    dsimp only
    split <;> exact cursor_judge _ _

/-- After the end of the input, a call only reports the end again. -/
theorem nextToken_of_exhausted (h : scanner.cursor.exhausted = true) :
    scanner.nextToken = ⟨scanner.endToken, [], scanner⟩ := by
  rw [nextToken, if_pos h]

/-- Before the end, a call is a round, followed by the rest of the call if the round has no token. -/
theorem nextToken_eq (h : scanner.cursor.exhausted = false) :
    scanner.nextToken =
      match scanner.round.value with
      | some token => { scanner.round with value := token }
      | none =>
        { scanner.round.scanner.nextToken with
          events := scanner.round.events ++ scanner.round.scanner.nextToken.events } := by
  fun_cases nextToken scanner with
  | case1 hexhausted => exact absurd hexhausted (by rw [h]; exact Bool.false_ne_true)
  | case2 _ attempt looked moved hstop => rw [round_of_endOfInput hstop]; rfl
  | case3 _ attempt looked offset line moved hstop => rw [round_of_unexpectedEnd hstop]; rfl
  | case4 _ attempt looked offset line moved hstop fault rest =>
    rw [round_of_invalid hstop]
    exact congrArg (Turn.mk _ · _) (List.append_cons _ _ _)
  | case5 _ attempt looked offset line moved lexeme hstop token judged hkept =>
    rw [round_of_kept hstop hkept]
    rfl
  | case6 _ attempt looked offset line moved lexeme hstop token judged hdropped rest =>
    rw [round_of_dropped hstop (Bool.eq_false_iff.mpr hdropped)]
    exact congrArg (Turn.mk _ · _) (List.append_cons _ _ _)

/-- A round with a token is the whole call. -/
theorem nextToken_of_round_some {token : Token} (h : scanner.cursor.exhausted = false)
    (hround : scanner.round.value = some token) :
    scanner.nextToken = { scanner.round with value := token } := by
  rw [nextToken_eq h, hround]

/-- Behind a round without a token another call follows, and its events come later. -/
theorem nextToken_of_round_none (h : scanner.cursor.exhausted = false)
    (hround : scanner.round.value = none) :
    scanner.nextToken =
      { scanner.round.scanner.nextToken with
        events := scanner.round.events ++ scanner.round.scanner.nextToken.events } := by
  rw [nextToken_eq h, hround]

/-- Judging a token does not move the scanner. -/
theorem cursor_judged (scanner : Scanner table σ) (lexeme : Nat) :
    (scanner.judged lexeme).scanner.cursor = scanner.moved.cursor := cursor_judge _ _

/-- Where a call goes on, its attempt did not end the input. -/
theorem endsInput_of_round_none (h : scanner.round.value = none) :
    scanner.attempt.stop.endsInput = false := by
  have hrounds := scanner.rounds_round
  generalize scanner.round = turn at h hrounds
  cases hrounds with
  | endOfInput => cases h
  | unexpectedEnd => cases h
  | invalid hstop => rw [hstop]; rfl
  | kept => cases h
  | dropped lexeme hstop => rw [hstop]; rfl

/-- A round that does not end the input consumes a character. -/
theorem remaining_round_lt (h : scanner.attempt.stop.endsInput = false) :
    scanner.round.scanner.cursor.remaining < scanner.cursor.remaining := by
  have hmatched : ∀ lexeme, scanner.attempt.stop = .matched lexeme →
      (scanner.judged lexeme).scanner.cursor.remaining < scanner.cursor.remaining := by
    intro lexeme hstop
    rw [cursor_judged]
    exact Table.remaining_run_lt_of_matched scanner.mode_lt hstop
  have hrounds := scanner.rounds_round
  generalize scanner.round = turn at hrounds ⊢
  cases hrounds with
  | endOfInput hstop => rw [hstop] at h; cases h
  | unexpectedEnd hstop => rw [hstop] at h; cases h
  | invalid hstop => exact Automaton.remaining_run_lt_of_invalid hstop
  | kept lexeme hstop => exact hmatched lexeme hstop
  | dropped lexeme hstop => exact hmatched lexeme hstop

end Cases

/-- What holds of a call after the end, of a round that has a token, and of a round before a call of
which it holds, holds of every call. -/
theorem nextToken_induct {motive : Scanner table σ → Turn table σ Token → Prop}
    (exhausted : ∀ scanner : Scanner table σ, scanner.cursor.exhausted = true →
      motive scanner ⟨scanner.endToken, [], scanner⟩)
    (answered : ∀ (scanner : Scanner table σ) (token : Token), scanner.cursor.exhausted = false →
      scanner.round.value = some token → motive scanner { scanner.round with value := token })
    (continued : ∀ scanner : Scanner table σ, scanner.cursor.exhausted = false →
      scanner.round.value = none → motive scanner.round.scanner scanner.round.scanner.nextToken →
      motive scanner
        { scanner.round.scanner.nextToken with
          events := scanner.round.events ++ scanner.round.scanner.nextToken.events })
    (scanner : Scanner table σ) : motive scanner scanner.nextToken := by
  cases hexhausted : scanner.cursor.exhausted with
  | true =>
    rw [nextToken_of_exhausted hexhausted]
    exact exhausted scanner hexhausted
  | false =>
    cases hround : scanner.round.value with
    | some token =>
      rw [nextToken_of_round_some hexhausted hround]
      exact answered scanner token hexhausted hround
    | none =>
      have hrest := nextToken_induct exhausted answered continued scanner.round.scanner
      rw [nextToken_of_round_none hexhausted hround]
      exact continued scanner hexhausted hround hrest
termination_by scanner.cursor.remaining
decreasing_by exact remaining_round_lt (endsInput_of_round_none hround)

/-- Two calls that bring the same, and leave two scanners in a relation. -/
structure TurnsRelated {α : Type} (relation : Scanner table σ → Scanner table σ → Prop)
    (first second : Turn table σ α) : Prop where
  /-- The answers are the same. -/
  value_eq : second.value = first.value
  /-- The same happened on the way. -/
  events_eq : second.events = first.events
  /-- The scanners are in the relation afterwards. -/
  scanner : relation first.scanner second.scanner

/-- Where a relation between scanners makes one attempt bring the same, and is kept by it, a call does
so too, by induction on its rounds. -/
theorem nextToken_related {relation : Scanner table σ → Scanner table σ → Prop}
    (hexhausted : ∀ first second, relation first second →
      second.cursor.exhausted = first.cursor.exhausted)
    (hend : ∀ first second, relation first second → second.endToken = first.endToken)
    (hround : ∀ first second, relation first second →
      TurnsRelated relation first.round second.round)
    {first second : Scanner table σ} (h : relation first second) :
    TurnsRelated relation first.nextToken second.nextToken := by
  refine nextToken_induct (motive := fun first turn => ∀ second, relation first second →
    TurnsRelated relation turn second.nextToken) ?exhausted ?answered ?continued first second h
  case exhausted =>
    intro first hended second h
    rw [nextToken_of_exhausted ((hexhausted _ _ h).trans hended)]
    exact ⟨hend _ _ h, rfl, h⟩
  case answered =>
    intro first token hlive hfirst second h
    obtain ⟨hvalue, hevents, hscanner⟩ := hround _ _ h
    rw [nextToken_of_round_some ((hexhausted _ _ h).trans hlive) (hvalue.trans hfirst)]
    exact ⟨rfl, hevents, hscanner⟩
  case continued =>
    intro first hlive hfirst ih second h
    obtain ⟨hvalue, hevents, hscanner⟩ := hround _ _ h
    obtain ⟨hlater, hlaterEvents, hlaterScanner⟩ := ih second.round.scanner hscanner
    rw [nextToken_of_round_none ((hexhausted _ _ h).trans hlive) (hvalue.trans hfirst), hevents,
      hlaterEvents]
    exact ⟨hlater, rfl, hlaterScanner⟩

/-- The way of the next attempt over the characters that remain. -/
def way (scanner : Scanner table σ) : Walk :=
  table.walk scanner.cursor.mode scanner.cursor.unconsumed

/-- The next character is at hand, and the end of the input was not reported yet. -/
structure Ready (scanner : Scanner table σ) : Prop where
  /-- The lookahead is missing only at the end. -/
  primed : scanner.cursor.Primed
  /-- The scanner may go on. -/
  live : scanner.cursor.exhausted = false

section Way

variable {scanner : Scanner table σ}

/-- An attempt stops for the reason that its way gives. -/
theorem stop_attempt (h : scanner.cursor.Primed) : scanner.attempt.stop = scanner.way.stop :=
  (Automaton.run_spec (show scanner.cursor.beginToken.Primed from h) scanner.cursor.mode).1

/-- An attempt leaves the cursor past what its way consumes. -/
theorem cursor_moved (h : scanner.cursor.Primed) :
    scanner.moved.cursor =
      scanner.cursor.beginToken.past scanner.way.consumed scanner.way.left :=
  (Automaton.run_spec (show scanner.cursor.beginToken.Primed from h) scanner.cursor.mode).2

/-- The current text behind an attempt is what its way consumes. -/
theorem text_moved (h : scanner.cursor.Primed) :
    scanner.moved.cursor.text = String.ofList scanner.way.consumed := by
  rw [cursor_moved h]
  exact String.empty_append

/-- What an attempt consumes and what it leaves are the characters that remained before. -/
theorem consumed_append_left_way (scanner : Scanner table σ) :
    scanner.way.consumed ++ scanner.way.left = scanner.cursor.unconsumed := by
  rw [Walk.consumed_append_left]
  exact Automaton.text_append_rest_walk _ _

/-- What remains behind an attempt is what its way leaves. -/
theorem unconsumed_moved (h : scanner.cursor.Primed) :
    scanner.moved.cursor.unconsumed = scanner.way.left := by
  rw [cursor_moved h]
  exact Cursor.unconsumed_past _ _ _

/-- Look-ups report no error. -/
theorem errors_looked (scanner : Scanner table σ) : Event.errors scanner.looked = [] := by
  rw [Event.errors, looked, List.filterMap_map, List.filterMap_eq_nil_iff]
  exact fun _ _ => rfl

/-- Asking the hook leaves the scanner with it. -/
theorem hook_judged (scanner : Scanner table σ) (lexeme : Nat) :
    (scanner.judged lexeme).scanner.hook = scanner.hook := by
  unfold judged judge
  split
  next hnone => rfl
  next hook hsome => exact hsome ▸ rfl

/-- The hook stays the same, only its memory may change. -/
theorem hook_round (scanner : Scanner table σ) : scanner.round.scanner.hook = scanner.hook := by
  have hrounds := scanner.rounds_round
  generalize scanner.round = turn at hrounds ⊢
  cases hrounds with
  | endOfInput => rfl
  | unexpectedEnd => rfl
  | invalid => rfl
  | kept lexeme => exact scanner.hook_judged lexeme
  | dropped lexeme => exact scanner.hook_judged lexeme

/-- A round moves the cursor past what its way consumes, and marks the end of the input if the way
ends there. -/
theorem cursor_round (h : scanner.Ready) :
    scanner.round.scanner.cursor =
      { scanner.cursor.beginToken.past scanner.way.consumed scanner.way.left with
        exhausted := scanner.way.stop.endsInput } := by
  have hlive : scanner.moved.cursor.exhausted = false := by
    rw [cursor_moved h.primed]
    exact h.live
  rw [← cursor_moved h.primed, ← stop_attempt h.primed]
  have hrounds := scanner.rounds_round
  generalize scanner.round = turn at hrounds ⊢
  cases hrounds with
  | endOfInput hstop => rw [hstop]; rfl
  | unexpectedEnd hstop => rw [hstop]; rfl
  | invalid hstop => rw [hstop, Stop.endsInput, ← hlive]
  | kept lexeme hstop => rw [hstop, Stop.endsInput, ← hlive, cursor_judged]
  | dropped lexeme hstop => rw [hstop, Stop.endsInput, ← hlive, cursor_judged]

/-- A round leaves the next character at hand. -/
theorem primed_round (h : scanner.Ready) : scanner.round.scanner.cursor.Primed := by
  rw [cursor_round h]
  exact Cursor.primed_past scanner.cursor.beginToken _ _

/-- What remains behind a round is what its way leaves. -/
theorem unconsumed_round (h : scanner.Ready) :
    scanner.round.scanner.cursor.unconsumed = scanner.way.left := by
  rw [cursor_round h]
  exact Cursor.unconsumed_past scanner.cursor.beginToken _ _

/-- A round takes what its way consumes off the characters that remain. -/
theorem consumed_append_unconsumed_round (h : scanner.Ready) :
    scanner.way.consumed ++ scanner.round.scanner.cursor.unconsumed = scanner.cursor.unconsumed := by
  rw [unconsumed_round h, consumed_append_left_way]

/-- The current text behind a round is what its way consumes. -/
theorem text_round (h : scanner.Ready) :
    scanner.round.scanner.cursor.text = String.ofList scanner.way.consumed := by
  rw [cursor_round h]
  exact String.empty_append

/-- A match is never taken for the end of the input. -/
theorem isEnd_candidate (h : scanner.cursor.Primed) {lexeme : Nat}
    (hstop : scanner.attempt.stop = .matched lexeme) : (scanner.candidate lexeme).isEnd = false :=
  Table.isEnd_lexemeRule_of_stop (Table.lt_stateCount_of_mode scanner.mode_lt)
    ((stop_attempt h).symm.trans hstop)

/-- A round has the token of the end exactly if its way ends the input. -/
theorem any_isEnd_round (h : scanner.cursor.Primed) :
    scanner.round.value.any Token.isEnd = scanner.way.stop.endsInput := by
  rw [← stop_attempt h]
  have hrounds := scanner.rounds_round
  generalize scanner.round = turn at hrounds ⊢
  cases hrounds with
  | endOfInput hstop => rw [hstop]; rfl
  | unexpectedEnd hstop => rw [hstop]; rfl
  | invalid hstop => rw [hstop]; rfl
  | kept lexeme hstop => rw [hstop]; exact isEnd_candidate h hstop
  | dropped lexeme hstop => rw [hstop]; rfl

/-- A round marks the end of the input exactly if its token is that of the end. -/
theorem exhausted_round (h : scanner.Ready) :
    scanner.round.scanner.cursor.exhausted = scanner.round.value.any Token.isEnd := by
  rw [cursor_round h, any_isEnd_round h.primed]

/-- The scanner behind a round without a token may go on. -/
theorem ready_round (h : scanner.Ready) (hround : scanner.round.value = none) :
    scanner.round.scanner.Ready :=
  ⟨primed_round h, by rw [exhausted_round h, hround]; rfl⟩

/-- A call before the end makes rounds until one has its token, and leaves what that round does. -/
theorem exists_round_nextToken (h : scanner.Ready) :
    ∃ (last : Scanner table σ) (earlier : List Event), last.Ready ∧
      last.round.value = some scanner.nextToken.value ∧
      scanner.nextToken.events = earlier ++ last.round.events ∧
      scanner.nextToken.scanner = last.round.scanner := by
  revert h
  refine nextToken_induct (motive := fun scanner turn => scanner.Ready →
    ∃ (last : Scanner table σ) (earlier : List Event), last.Ready ∧
      last.round.value = some turn.value ∧ turn.events = earlier ++ last.round.events ∧
      turn.scanner = last.round.scanner) ?exhausted ?answered ?continued scanner
  case exhausted =>
    intro scanner hexhausted hready
    exact absurd hready.live (by rw [hexhausted]; exact Bool.noConfusion)
  case answered =>
    intro scanner token _ hround hready
    exact ⟨scanner, [], hready, hround, rfl, rfl⟩
  case continued =>
    intro scanner _ hround ih hready
    obtain ⟨last, earlier, hlast, hvalue, hevents, hscanner⟩ := ih (ready_round hready hround)
    refine ⟨last, scanner.round.events ++ earlier, hlast, hvalue, ?_, hscanner⟩
    rw [hevents, List.append_assoc]

/-- A call leaves the next character at hand. -/
theorem primed_nextToken (h : scanner.cursor.Primed) : scanner.nextToken.scanner.cursor.Primed := by
  cases hexhausted : scanner.cursor.exhausted with
  | true => rwa [nextToken_of_exhausted hexhausted]
  | false =>
    obtain ⟨last, _, hready, _, _, hscanner⟩ := exists_round_nextToken ⟨h, hexhausted⟩
    rw [hscanner]
    exact primed_round hready

/-- After a call the end of the input is marked exactly if the call answered with the end. -/
theorem exhausted_nextToken (h : scanner.cursor.Primed) :
    scanner.nextToken.scanner.cursor.exhausted = scanner.nextToken.value.isEnd := by
  cases hexhausted : scanner.cursor.exhausted with
  | true =>
    rw [nextToken_of_exhausted hexhausted, hexhausted]
    rfl
  | false =>
    obtain ⟨last, _, hready, hvalue, _, hscanner⟩ := exists_round_nextToken ⟨h, hexhausted⟩
    rw [hscanner, exhausted_round hready, hvalue]
    rfl

end Way

end Scanner

end ScanSchema
