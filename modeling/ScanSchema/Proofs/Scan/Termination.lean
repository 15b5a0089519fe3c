import ScanSchema.Proofs.Loops
import ScanSchema.Proofs.Scan.Range

/-!
# Scans end

An attempt, a call for a token and the draining of a scanner are loops: a body is run again and again
until it has the answer. Here the bodies stand on their own, and nothing in them says that they come
to an end; the body of an attempt may even ask to go on where no character is left. For the tables
that pass the check every turn of these loops brings down the number of characters that remain, and
so each loop ends.
-/

namespace ScanSchema

namespace Cursor

variable {cursor : Cursor}

/-- Consuming a character moves it from what remains to the current text. -/
theorem length_text_advance (cursor : Cursor) :
    cursor.advance.text.length + cursor.advance.remaining =
      cursor.text.length + cursor.remaining := by
  cases hlook : cursor.lookahead with
  | none => rw [advance, hlook]
  | some c =>
    have htext : cursor.advance.text = cursor.text.push c := by rw [advance, hlook]
    rw [remaining, remaining, unconsumed_advance hlook, htext, String.length_push, List.length_cons]
    omega

/-- Consuming a character does not report the end. -/
theorem exhausted_advance (cursor : Cursor) : cursor.advance.exhausted = cursor.exhausted := by
  unfold advance
  split <;> rfl

end Cursor

namespace Automaton

variable {automaton : Automaton} {state : Nat} {cursor : Cursor}

/-- What an attempt consumes is its text. -/
theorem length_text_run :
    (automaton.run state cursor).cursor.text.length + (automaton.run state cursor).cursor.remaining =
      cursor.text.length + cursor.remaining := by
  fun_induction automaton.run state cursor with
  | case1 _ cursor _ _ _ _ _ _ _ _ ih => exact ih.trans cursor.length_text_advance
  | case2 _ cursor => exact cursor.length_text_advance
  | _ => rfl

/-- An attempt leaves it to the scanner to mark the end of the input. -/
theorem exhausted_run : (automaton.run state cursor).cursor.exhausted = cursor.exhausted := by
  fun_induction automaton.run state cursor with
  | case1 _ cursor _ _ _ _ _ _ _ _ ih => exact ih.trans cursor.exhausted_advance
  | case2 _ cursor => exact cursor.exhausted_advance
  | _ => rfl

/-- What an attempt does in a state. It asks to go on whether or not there is a character to go on
with; where there is none, nothing is consumed, and in a state that went on there the attempt would
never end. -/
def attemptBody (automaton : Automaton) : Nat × Cursor → (Nat × Cursor) ⊕ (Stop × Cursor)
  | (state, cursor) =>
    match automaton.outcome state (automaton.classes.classOf cursor.lookahead) with
    | .goto next => .inl (next, cursor.advance)
    | .reject =>
      match cursor.lookahead with
      | none => .inr (.unexpectedEnd, cursor)
      | some _ => .inr (.invalid, cursor.advance)
    | .acceptEnd => .inr (.endOfInput, cursor)
    | .accept lexeme => .inr (.matched lexeme, cursor)

end Automaton

namespace Table

variable {table : Table} {state : Nat} {cursor : Cursor}

/-- Where the table goes on there is a character to go on with, and a state to go on in. -/
theorem exists_lookahead_of_goto (hstate : state < table.stateCount) {next : Nat}
    (h : table.outcome state (table.classes.classOf cursor.lookahead) = .goto next) :
    next < table.stateCount ∧ ∃ c, cursor.lookahead = some c := by
  have hlegal := legalOutcome_classOf hstate cursor.lookahead
  rw [h] at hlegal
  obtain ⟨hnext, hclass⟩ := hlegal
  refine ⟨hnext, ?_⟩
  cases hlook : cursor.lookahead with
  | none => exact absurd (hlook ▸ CharClasses.classOf_none _) hclass
  | some c => exact ⟨c, rfl⟩

/-- Where the body of an attempt goes on it consumes a character, and the attempt goes on from there.
Where it does not, the attempt stops. -/
theorem attemptBody_cases (hstate : state < table.stateCount) (cursor : Cursor) :
    (∃ next < table.stateCount, table.attemptBody (state, cursor) = .inl (next, cursor.advance) ∧
        cursor.advance.remaining < cursor.remaining ∧
        (table.run next cursor.advance).stop = (table.run state cursor).stop ∧
        (table.run next cursor.advance).cursor = (table.run state cursor).cursor) ∨
      table.attemptBody (state, cursor) =
        .inr ((table.run state cursor).stop, (table.run state cursor).cursor) := by
  fun_cases Automaton.run table.toAutomaton state cursor with
  | case1 cls outcome lookup next c hlook hgoto =>
    have hout : table.outcome state (table.classes.classOf cursor.lookahead) = .goto next := hgoto
    refine .inl ⟨next, (exists_lookahead_of_goto hstate hout).1, ?_,
      Cursor.remaining_advance_lt hlook, rfl, rfl⟩
    rw [Automaton.attemptBody, hout]
  | case2 cls outcome lookup c hlook hreject =>
    have hout : table.outcome state (table.classes.classOf cursor.lookahead) = .reject := hreject
    rw [Automaton.attemptBody, hout, hlook]
    exact .inr rfl
  | case3 cls outcome lookup next hlook hgoto =>
    have hout : table.outcome state (table.classes.classOf cursor.lookahead) = .goto next := hgoto
    obtain ⟨-, c, hsome⟩ := exists_lookahead_of_goto hstate hout
    exact absurd (hlook.symm.trans hsome) (Option.some_ne_none c).symm
  | case4 cls outcome lookup hlook hreject =>
    have hout : table.outcome state (table.classes.classOf cursor.lookahead) = .reject := hreject
    rw [Automaton.attemptBody, hout, hlook]
    exact .inr rfl
  | case5 cls outcome lookup haccept =>
    have hout : table.outcome state (table.classes.classOf cursor.lookahead) = .acceptEnd := haccept
    rw [Automaton.attemptBody, hout]
    exact .inr rfl
  | case6 cls outcome lookup lexeme haccept =>
    have hout : table.outcome state (table.classes.classOf cursor.lookahead) = .accept lexeme :=
      haccept
    rw [Automaton.attemptBody, hout]
    exact .inr rfl

/-- The loop of an attempt ends after at most one turn more than there are characters, in any state
that exists. It stops for the reason and at the place that the attempt has. -/
theorem loops_run (hstate : state < table.stateCount) (cursor : Cursor) :
    ∃ turns ≤ cursor.remaining + 1, Loops table.attemptBody (state, cursor) turns
      ((table.run state cursor).stop, (table.run state cursor).cursor) := by
  refine Loops.exists_le (fun place => place.1 < table.stateCount) (fun place => place.2.remaining)
    (fun place => ((table.run place.1 place.2).stop, (table.run place.1 place.2).cursor))
    ?next ?last (state, cursor) hstate
  case next =>
    rintro ⟨state, cursor⟩ after hfit hbody
    rcases attemptBody_cases hfit cursor with ⟨next, hnext, hgoes, hless, hstop, hcursor⟩ | hstops
    · cases hgoes.symm.trans hbody
      exact ⟨hnext, hless, Prod.ext hstop hcursor⟩
    · cases hstops.symm.trans hbody
  case last =>
    rintro ⟨state, cursor⟩ found hfit hbody
    rcases attemptBody_cases hfit cursor with ⟨next, -, hgoes, -⟩ | hstops
    · cases hgoes.symm.trans hbody
    · exact (Sum.inr.inj (hstops.symm.trans hbody)).symm

/-- At the end of the input no state goes on. -/
theorem attemptBody_ne_inl_of_end (hstate : state < table.stateCount)
    (hend : cursor.lookahead = none) (next : Nat × Cursor) :
    table.attemptBody (state, cursor) ≠ .inl next := by
  intro hgoes
  have hadvance : cursor.advance = cursor := by rw [Cursor.advance, hend]
  rcases attemptBody_cases hstate cursor with ⟨-, -, -, hless, -⟩ | hstops
  · rw [hadvance] at hless
    exact absurd hless (Nat.lt_irrefl _)
  · cases hstops.symm.trans hgoes

end Table

namespace Scanner

variable {table : Table} {σ : Type} {scanner : Scanner table σ}

/-- The text of an attempt is as long as what the attempt consumes. -/
theorem length_text_attempt (scanner : Scanner table σ) :
    scanner.attempt.cursor.text.length + scanner.attempt.cursor.remaining =
      scanner.cursor.remaining := by
  have hlength : scanner.attempt.cursor.text.length + scanner.attempt.cursor.remaining =
      scanner.cursor.beginToken.text.length + scanner.cursor.beginToken.remaining :=
    Automaton.length_text_run
  exact hlength.trans (Nat.zero_add _)

/-- An attempt that does not end the input consumes a character. -/
theorem remaining_attempt_lt (h : scanner.attempt.stop.endsInput = false) :
    scanner.attempt.cursor.remaining < scanner.cursor.remaining := by
  cases hstop : scanner.attempt.stop with
  | endOfInput => rw [hstop] at h; cases h
  | unexpectedEnd => rw [hstop] at h; cases h
  | invalid => exact Automaton.remaining_run_lt_of_invalid hstop
  | matched lexeme => exact Table.remaining_run_lt_of_matched scanner.mode_lt hstop

/-- So its text is not empty. -/
theorem text_attempt_ne_empty (h : scanner.attempt.stop.endsInput = false) :
    scanner.attempt.cursor.text ≠ "" := by
  intro hempty
  have hlength := scanner.length_text_attempt
  have hless := remaining_attempt_lt h
  rw [hempty, String.length_empty] at hlength
  omega

/-- A token that is matched has a text. -/
theorem text_candidate_ne_empty {lexeme : Nat} (hstop : scanner.attempt.stop = .matched lexeme) :
    (scanner.candidate lexeme).text ≠ "" :=
  text_attempt_ne_empty (by rw [hstop]; rfl)

/-- A round without a token leaves the end of the input unmarked. -/
theorem exhausted_round_of_none (hlive : scanner.cursor.exhausted = false)
    (hround : scanner.round.value = none) : scanner.round.scanner.cursor.exhausted = false := by
  have hmoved : scanner.moved.cursor.exhausted = scanner.cursor.beginToken.exhausted :=
    Automaton.exhausted_run
  have hrounds := scanner.rounds_round
  generalize scanner.round = turn at hround hrounds ⊢
  cases hrounds with
  | endOfInput => cases hround
  | unexpectedEnd => cases hround
  | invalid => exact hmoved.trans hlive
  | kept => cases hround
  | dropped lexeme =>
    rw [cursor_judged]
    exact hmoved.trans hlive

/-- What a call for a token does behind some rounds without one: it makes a round, and goes on if
that brings no token either. -/
def callBody (earlier : Turn table σ Unit) : Turn table σ Unit ⊕ Turn table σ Token :=
  let round := earlier.scanner.round
  match round.value with
  | none => .inl ⟨(), earlier.events ++ round.events, round.scanner⟩
  | some token => .inr ⟨token, earlier.events ++ round.events, round.scanner⟩

/-- Before the end of the input, the loop of a call ends after at most one attempt more than there
are characters, and answers as the call does. -/
theorem loops_nextToken (hlive : scanner.cursor.exhausted = false) :
    ∃ attempts ≤ scanner.cursor.remaining + 1,
      Loops callBody ⟨(), [], scanner⟩ attempts scanner.nextToken := by
  refine Loops.exists_le
    (fun earlier : Turn table σ Unit => earlier.scanner.cursor.exhausted = false)
    (fun earlier => earlier.scanner.cursor.remaining)
    (fun earlier =>
      { earlier.scanner.nextToken with
        events := earlier.events ++ earlier.scanner.nextToken.events })
    ?next ?last ⟨(), [], scanner⟩ hlive
  case next =>
    intro earlier next hfit hbody
    cases hround : earlier.scanner.round.value with
    | some token =>
      rw [callBody, hround] at hbody
      cases hbody
    | none =>
      rw [callBody, hround] at hbody
      cases hbody
      refine ⟨exhausted_round_of_none hfit hround,
        remaining_round_lt (endsInput_of_round_none hround), ?_⟩
      rw [nextToken_of_round_none hfit hround, List.append_assoc]
  case last =>
    intro earlier found hfit hbody
    cases hround : earlier.scanner.round.value with
    | none =>
      rw [callBody, hround] at hbody
      cases hbody
    | some token =>
      rw [callBody, hround] at hbody
      cases hbody
      rw [nextToken_of_round_some hfit hround]

/-- The hook is asked about the token that was matched, and about no other. -/
theorem eq_candidate_of_shown {lexeme : Nat} {token : Token}
    (h : .shown token ∈ (scanner.judged lexeme).events) : token = scanner.candidate lexeme := by
  unfold judged judge at h
  split at h
  next => exact absurd h List.not_mem_nil
  next => exact Event.shown.inj (List.mem_singleton.mp h)

/-- While the automaton is asked, the hook is not. -/
theorem shown_not_mem_looked (scanner : Scanner table σ) (token : Token) :
    .shown token ∉ scanner.looked := by
  intro h
  obtain ⟨lookup, -, heq⟩ := List.mem_map.mp h
  cases heq

/-- A token that a round shows to the hook has a text, and its own token lacks one only if it stands
for the end. -/
theorem text_ne_empty_round (scanner : Scanner table σ) :
    (∀ token, .shown token ∈ scanner.round.events → token.text ≠ "") ∧
      ∀ token, scanner.round.value = some token → (token.text = "" ↔ token.isEnd = true) := by
  have hlooked := scanner.shown_not_mem_looked
  have hend : scanner.endToken.text = "" ↔ scanner.endToken.isEnd = true :=
    iff_of_true rfl (Token.isEnd_endOfInput _ _)
  have hrounds := scanner.rounds_round
  generalize scanner.round = turn at hrounds ⊢
  cases hrounds with
  | endOfInput =>
    refine ⟨fun token hshown => absurd hshown (hlooked token), fun token htoken => ?_⟩
    rwa [← Option.some.inj htoken]
  | unexpectedEnd =>
    refine ⟨fun token hshown => ?_, fun token htoken => ?_⟩
    · rcases List.mem_append.mp hshown with hshown | hshown
      · exact absurd hshown (hlooked token)
      · cases List.mem_singleton.mp hshown
    · rwa [← Option.some.inj htoken]
  | invalid =>
    refine ⟨fun token hshown => ?_, fun token htoken => by cases htoken⟩
    rcases List.mem_append.mp hshown with hshown | hshown
    · exact absurd hshown (hlooked token)
    · cases List.mem_singleton.mp hshown
  | kept lexeme hstop =>
    refine ⟨fun token hshown => ?_, fun token htoken => ?_⟩
    · rcases List.mem_append.mp hshown with hshown | hshown
      · exact absurd hshown (hlooked token)
      · rw [eq_candidate_of_shown hshown]
        exact text_candidate_ne_empty hstop
    · have hrule : (scanner.candidate lexeme).isEnd = false :=
        beq_false_of_ne (declares_candidate hstop).2
      rw [← Option.some.inj htoken]
      exact iff_of_false (text_candidate_ne_empty hstop) (Bool.eq_false_iff.mp hrule)
  | dropped lexeme hstop =>
    refine ⟨fun token hshown => ?_, fun token htoken => by cases htoken⟩
    rcases List.mem_append.mp hshown with hshown | hshown
    · rcases List.mem_append.mp hshown with hshown | hshown
      · exact absurd hshown (hlooked token)
      · rw [eq_candidate_of_shown hshown]
        exact text_candidate_ne_empty hstop
    · cases List.mem_singleton.mp hshown

/-- A token that is shown to the hook has a text, and the token that a call answers with lacks one
only if it stands for the end. -/
theorem text_ne_empty_nextToken (scanner : Scanner table σ) :
    (∀ token, .shown token ∈ scanner.nextToken.events → token.text ≠ "") ∧
      (scanner.nextToken.value.text = "" ↔ scanner.nextToken.value.isEnd = true) := by
  refine nextToken_induct (motive := fun _ turn =>
    (∀ token, .shown token ∈ turn.events → token.text ≠ "") ∧
      (turn.value.text = "" ↔ turn.value.isEnd = true)) ?exhausted ?answered ?continued scanner
  case exhausted =>
    intro scanner _
    exact ⟨fun token hshown => absurd hshown List.not_mem_nil,
      iff_of_true rfl (Token.isEnd_endOfInput _ _)⟩
  case answered =>
    intro scanner token _ hround
    obtain ⟨hshown, htoken⟩ := scanner.text_ne_empty_round
    exact ⟨hshown, htoken token hround⟩
  case continued =>
    intro scanner _ _ ih
    obtain ⟨hshown, htoken⟩ := ih
    refine ⟨fun token hmem => ?_, htoken⟩
    rcases List.mem_append.mp hmem with hearlier | hlater
    · exact scanner.text_ne_empty_round.1 token hearlier
    · exact hshown token hlater

/-- What draining does behind some tokens: it asks for the next one, and goes on unless that is the
end. -/
def drainBody (earlier : Turn table σ (List Token)) :
    Turn table σ (List Token) ⊕ Turn table σ (List Token) :=
  let turn := earlier.scanner.nextToken?
  match turn.value with
  | some token => .inl ⟨earlier.value ++ [token], earlier.events ++ turn.events, turn.scanner⟩
  | none => .inr ⟨earlier.value, earlier.events ++ turn.events, turn.scanner⟩

/-- A drained scanner begins with its next token, unless that is the end. -/
theorem drain_eq (scanner : Scanner table σ) :
    scanner.drain =
      match scanner.nextToken?.value with
      | none => ⟨[], scanner.nextToken?.events, scanner.nextToken?.scanner⟩
      | some token =>
        ⟨token :: scanner.nextToken?.scanner.drain.value,
          scanner.nextToken?.events ++ scanner.nextToken?.scanner.drain.events,
          scanner.nextToken?.scanner.drain.scanner⟩ := by
  rw [drain, nextToken?]
  by_cases hend : scanner.nextToken.value.isEnd = true
  · rw [dif_pos hend, if_pos hend]
  · rw [dif_neg hend, if_neg hend]

/-- Where another token comes, it is the one that a call answers with, and a character was consumed. -/
theorem nextToken?_eq_some {token : Token} (h : scanner.nextToken?.value = some token) :
    scanner.nextToken.value = token ∧ token.isEnd = false ∧
      scanner.nextToken?.scanner.cursor.remaining < scanner.cursor.remaining := by
  rw [nextToken?] at h
  by_cases hend : scanner.nextToken.value.isEnd = true
  · rw [if_pos hend] at h
    cases h
  · rw [if_neg hend] at h
    have hlive := Bool.eq_false_iff.mpr hend
    have htoken := Option.some.inj h
    exact ⟨htoken, htoken ▸ hlive, remaining_nextToken_lt hlive⟩

/-- The loop that drains a scanner ends after at most one call more than there are characters. -/
theorem loops_drain (scanner : Scanner table σ) :
    ∃ calls ≤ scanner.cursor.remaining + 1, Loops drainBody ⟨[], [], scanner⟩ calls scanner.drain := by
  refine Loops.exists_le (fun _ : Turn table σ (List Token) => True)
    (fun earlier => earlier.scanner.cursor.remaining)
    (fun earlier =>
      { earlier.scanner.drain with
        value := earlier.value ++ earlier.scanner.drain.value
        events := earlier.events ++ earlier.scanner.drain.events })
    ?next ?last ⟨[], [], scanner⟩ trivial
  case next =>
    intro earlier next _ hbody
    cases hnext : earlier.scanner.nextToken?.value with
    | none =>
      rw [drainBody, hnext] at hbody
      cases hbody
    | some token =>
      rw [drainBody, hnext] at hbody
      cases hbody
      refine ⟨trivial, (nextToken?_eq_some hnext).2.2, ?_⟩
      have hdrain := earlier.scanner.drain_eq
      rw [hnext] at hdrain
      rw [hdrain, List.append_assoc, List.append_assoc]
      rfl
  case last =>
    intro earlier found _ hbody
    cases hnext : earlier.scanner.nextToken?.value with
    | some token =>
      rw [drainBody, hnext] at hbody
      cases hbody
    | none =>
      rw [drainBody, hnext] at hbody
      cases hbody
      have hdrain := earlier.scanner.drain_eq
      rw [hnext] at hdrain
      rw [hdrain, List.append_nil]

/-- Every token of a drained scanner has a text. -/
theorem text_ne_empty_drain (scanner : Scanner table σ) :
    ∀ token ∈ scanner.drain.value, token.text ≠ "" := by
  fun_induction drain scanner with
  | case1 => exact fun token htoken => absurd htoken List.not_mem_nil
  | case2 scanner turn hend rest ih =>
    refine List.forall_mem_cons.mpr ⟨fun hempty => ?_, ih⟩
    exact hend (scanner.text_ne_empty_nextToken.2.mp hempty)

/-- From wherever a scanner stands, in every mode of every table and with every hook, its loops end.

An attempt takes at most one turn more than there are characters left, as no state goes on where
none is left; and if it matches a lexeme or drops a text, it has consumed a character. So a call makes
at most one attempt more than that, and a scanner is drained by at most one call more. The tokens
shown to the hook and handed out have texts; only that of the end has none. -/
theorem loops_end (scanner : Scanner table σ) :
    (∃ turns ≤ scanner.cursor.remaining + 1,
        Loops table.attemptBody (scanner.cursor.mode, scanner.cursor.beginToken) turns
          (scanner.attempt.stop, scanner.attempt.cursor)) ∧
      (∀ state < table.stateCount, ∀ cursor : Cursor, cursor.lookahead = none →
        ∀ next, table.attemptBody (state, cursor) ≠ .inl next) ∧
      (scanner.attempt.stop.endsInput = false →
        scanner.attempt.cursor.remaining < scanner.cursor.remaining) ∧
      (scanner.cursor.exhausted = true → scanner.nextToken = ⟨scanner.endToken, [], scanner⟩) ∧
      (scanner.cursor.exhausted = false → ∃ attempts ≤ scanner.cursor.remaining + 1,
        Loops callBody ⟨(), [], scanner⟩ attempts scanner.nextToken) ∧
      (∀ token, .shown token ∈ scanner.nextToken.events → token.text ≠ "") ∧
      (scanner.nextToken.value.text = "" ↔ scanner.nextToken.value.isEnd = true) ∧
      (∃ calls ≤ scanner.cursor.remaining + 1,
        Loops drainBody ⟨[], [], scanner⟩ calls scanner.drain) ∧
      ∀ token ∈ scanner.drain.value, token.text ≠ "" := by
  obtain ⟨hshown, hanswer⟩ := scanner.text_ne_empty_nextToken
  exact ⟨Table.loops_run (Table.lt_stateCount_of_mode scanner.mode_lt) scanner.cursor.beginToken,
    fun _ hstate _ hend => Table.attemptBody_ne_inl_of_end hstate hend, remaining_attempt_lt,
    nextToken_of_exhausted, loops_nextToken, hshown, hanswer, scanner.loops_drain,
    scanner.text_ne_empty_drain⟩

end Scanner

end ScanSchema
