import ScanSchema.Proofs.Scan.Resuming
import ScanSchema.Proofs.Scan.Stepping
import ScanSchema.Proofs.Scan.Termination

/-!
# One character of lookahead

At a feed that ends, a scanner that works step by step comes to do what it does when it is given the
characters as a list. `Work.following` is the work of a scanner that is given a list, and
`Work.Reaches` leads from one such work to the next: over an attempt, a call and all calls.

With that, `Work.looks_one_ahead` says of all feeds what a scanner asks for and what it can depend on.
-/

namespace ScanSchema

namespace Cursor

/-- The cursor without the characters that its source still holds. -/
def detach (cursor : Cursor) : Cursor :=
  { cursor with source := { cursor.source with unread := [] } }

/-- A cursor stands in an input behind some characters: the others remain, and it has asked for one
character more than it has consumed. -/
structure StandsIn (input consumed : List Char) (cursor : Cursor) : Prop where
  /-- The input is what is consumed and what remains. -/
  input_eq : input = consumed ++ cursor.unconsumed
  /-- The lookahead was asked for too. -/
  pulls_eq : cursor.source.pulls = consumed.length + 1
  /-- The lookahead is missing only at the end. -/
  primed : cursor.Primed

variable {input consumed : List Char} {cursor : Cursor}

/-- At first nothing is consumed, and the first character was asked for. -/
theorem standsIn_start (input : List Char) : (start input).StandsIn input [] where
  input_eq := (unconsumed_start input).symm
  pulls_eq := rfl
  primed := primed_start input

/-- At the place where the cursor stands, an input that ends has the character that follows. -/
theorem StandsIn.feed_eq (h : cursor.StandsIn input consumed) {c : Char}
    (hlook : cursor.lookahead = some c) :
    Feed.ofList input cursor.source.pulls = cursor.source.unread.head? := by
  rw [Feed.ofList, h.pulls_eq, h.input_eq, unconsumed_of_lookahead_some hlook,
    List.getElem?_append_right (Nat.le_add_right _ 1), Nat.add_sub_cancel_left,
    List.getElem?_cons_succ, List.head?_eq_getElem?]

/-- Consuming a character at a feed that ends is consuming it from the list. -/
theorem StandsIn.advanceOn_detach (h : cursor.StandsIn input consumed) {c : Char}
    (hlook : cursor.lookahead = some c) :
    cursor.detach.advanceOn (.ofList input) = cursor.advance.detach := by
  have hfeed := h.feed_eq hlook
  obtain ⟨mode, lookahead, ⟨unread, pulls⟩, text, tokenLine, line, offset, exhausted⟩ := cursor
  cases hlook
  simp only [advanceOn, detach, advance, Source.pull, hfeed]
  cases unread <;> rfl

/-- A consumed character is the next one of the input. -/
theorem StandsIn.advance (h : cursor.StandsIn input consumed) {c : Char}
    (hlook : cursor.lookahead = some c) : cursor.advance.StandsIn input (consumed ++ [c]) := by
  have hpast := advance_eq_past hlook
  refine ⟨?_, ?_, hpast ▸ primed_past _ _ _⟩
  · rw [h.input_eq, unconsumed_of_lookahead_some hlook, hpast, unconsumed_past,
      List.append_assoc, List.singleton_append]
  · rw [hpast, past, h.pulls_eq, List.length_append]
    exact Nat.add_right_comm _ _ _

end Cursor

variable {table : Table} {σ : Type}

/-- The scanner without the characters that its source still holds. -/
def Scanner.detach (scanner : Scanner table σ) : Scanner table σ :=
  scanner.moveTo scanner.cursor.detach rfl

/-- What a call brings, with the scanner that it leaves without these characters. -/
def Turn.detach {α : Type} (turn : Turn table σ α) : Turn table σ α :=
  { turn with scanner := turn.scanner.detach }

namespace Scanner

/-- The hook does not see what the source still holds. -/
theorem judge_detach (scanner : Scanner table σ) (token : Token) :
    scanner.detach.judge token = (scanner.judge token).detach := by
  rw [judge_eq, judge_eq]
  rfl

/-- The end of an attempt is the same without the characters of the source. -/
theorem conclude_detach (scanner : Scanner table σ) (offset : Nat) (stop : Stop) :
    scanner.detach.conclude offset stop = (scanner.conclude offset stop).detach := by
  cases stop with
  | endOfInput => rfl
  | unexpectedEnd => rfl
  | invalid => rfl
  | matched lexeme =>
    have hjudge : scanner.detach.judge _ = _ := scanner.judge_detach
      ⟨table.lexemeRule lexeme, scanner.cursor.text, offset, scanner.cursor.tokenLine⟩
    have htext : scanner.detach.cursor.text = scanner.cursor.text := rfl
    have hline : scanner.detach.cursor.tokenLine = scanner.cursor.tokenLine := rfl
    simp only [conclude, htext, hline, hjudge, Turn.detach]
    split <;> rfl

/-- So is a call that has to do with mode, position or hook only. -/
theorem perform_detach (scanner : Scanner table σ) {operation : Operation σ}
    (h : operation.tunes = true) :
    scanner.detach.perform operation = (scanner.perform operation).detach := by
  cases operation with
  | setMode mode =>
    simp only [perform, setMode]
    split <;> rfl
  | restore point =>
    simp only [perform, restore, setMode]
    split <;> rfl
  | nextToken => cases h
  | iterate => cases h
  | reset input => cases h
  | _ => rfl

/-- On a feed that ends, a scanner begins with the first character of the list. -/
theorem reset_ofList (scanner : Scanner table σ) (input : List Char) :
    scanner.reset (Feed.ofList input 0).toList = (scanner.reset input).detach := by
  cases input <;> rfl

/-- Two ways to the same place are the same. -/
theorem moveTo_congr (scanner : Scanner table σ) {cursor other : Cursor} (h : cursor = other)
    (hmode : cursor.mode = scanner.cursor.mode) :
    scanner.moveTo cursor hmode = scanner.moveTo other (h ▸ hmode) := by
  subst h
  rfl

end Scanner

namespace Work

/-- One work comes to be another one. -/
def Reaches (first second : Work table σ) : Prop := ∃ steps, first.run steps = second

variable {first second third : Work table σ}

/-- A work comes to be itself in no steps. -/
theorem Reaches.refl (work : Work table σ) : work.Reaches work := ⟨0, rfl⟩

/-- Steps can be done one after the other. -/
theorem Reaches.trans (h : first.Reaches second) (h' : second.Reaches third) :
    first.Reaches third := by
  obtain ⟨steps, rfl⟩ := h
  obtain ⟨more, rfl⟩ := h'
  exact ⟨more + steps, Function.iterate_add_apply step more steps first⟩

/-- One work comes to be another in a single step. -/
theorem Reaches.of_step (h : first.step = second) : first.Reaches second := ⟨1, h⟩

/-- One step, and what comes behind it. -/
theorem Reaches.head (h : first.step.Reaches second) : first.Reaches second :=
  Reaches.trans (.of_step rfl) h

/-- The work of a scanner that was given a list, of which it has consumed some characters. -/
def following (input consumed : List Char) (scanner : Scanner table σ) (task : Task)
    (told : List (Answer × List Event)) (pending : List Event) (calls : List (Call σ)) :
    Work table σ :=
  ⟨.ofList input, consumed, scanner.detach, task, told, pending, calls⟩

section Following

variable {input consumed : List Char} {scanner : Scanner table σ} {task : Task}
  {told : List (Answer × List Event)} {pending : List Event} {calls : List (Call σ)}

/-- A scanner that begins on a feed that ends follows the list. -/
theorem begin_ofList (scanner : Scanner table σ) (input : List Char) (calls : List (Call σ)) :
    begin scanner (.ofList input) calls =
      following input [] (scanner.reset input) .waiting [] [] calls := by
  rw [begin, Scanner.reset_ofList, following]

/-- Consuming a character keeps following the list. -/
theorem consume_following (h : scanner.cursor.StandsIn input consumed) {c : Char}
    (hlook : scanner.cursor.lookahead = some c) :
    (following input consumed scanner task told pending calls).consume =
      following input (consumed ++ [c])
        (scanner.moveTo scanner.cursor.advance scanner.cursor.mode_advance) task told pending
        calls := by
  have hcursor := h.advanceOn_detach hlook
  have hchar : scanner.cursor.lookahead.toList = [c] := by rw [hlook]; rfl
  unfold following
  simp only [consume]
  congr 1
  · exact congrArg (consumed ++ ·) hchar
  · exact scanner.moveTo_congr hcursor (Cursor.mode_advanceOn _ _)

/-- So does the end of an attempt. -/
theorem conclude_following (iterating : Bool) (offset : Nat) (stop : Stop) :
    (following input consumed scanner task told pending calls).conclude iterating offset stop =
      (following input consumed (scanner.conclude offset stop).scanner task told
        (pending ++ (scanner.conclude offset stop).events) calls).proceed iterating
          (scanner.conclude offset stop).value := by
  have hdetach : (following input consumed scanner task told pending calls).scanner.conclude
      offset stop = (scanner.conclude offset stop).detach := scanner.conclude_detach offset stop
  rw [conclude, hdetach]
  rfl

/-- Looking an outcome up at a feed that ends. -/
theorem step_following (input consumed : List Char) (scanner : Scanner table σ)
    (iterating : Bool) (state offset : Nat) (told : List (Answer × List Event))
    (pending : List Event) (calls : List (Call σ)) :
    (following input consumed scanner (.scanning iterating state offset) told pending calls).step =
      let cls := table.classes.classOf scanner.cursor.lookahead
      let noted := following input consumed scanner (.scanning iterating state offset) told
        (pending ++ [.looked ⟨state, cls, table.outcome state cls⟩]) calls
      match table.outcome state cls, scanner.cursor.lookahead with
      | .goto next, _ => { noted.consume with task := .scanning iterating next offset }
      | .reject, none => noted.conclude iterating offset .unexpectedEnd
      | .reject, some _ => noted.consume.conclude iterating offset .invalid
      | .acceptEnd, _ => noted.conclude iterating offset .endOfInput
      | .accept lexeme, _ => noted.conclude iterating offset (.matched lexeme) := by
  rfl

/-- An attempt looks up what it looks up in the list, and comes to its end where it does there. -/
theorem reaches_run {scanner : Scanner table σ} {consumed : List Char}
    (h : scanner.cursor.StandsIn input consumed) {state : Nat} (hstate : state < table.stateCount)
    (iterating : Bool) (offset : Nat) {attempt : Attempt}
    (hrun : table.run state scanner.cursor = attempt) (told : List (Answer × List Event))
    (pending : List Event) (calls : List (Call σ)) :
    ∃ consumed' state' hmode, attempt.cursor.StandsIn input consumed' ∧
      (following input consumed scanner (.scanning iterating state offset) told pending
        calls).Reaches
      ((following input consumed' (scanner.moveTo attempt.cursor hmode)
        (.scanning iterating state' offset) told (pending ++ attempt.lookups.map Event.looked)
        calls).conclude iterating offset attempt.stop) := by
  have hstep := step_following input consumed scanner iterating state offset told pending calls
  rw [Automaton.run_eq] at hrun
  dsimp only at hstep hrun
  generalize hout : table.outcome state (table.classes.classOf scanner.cursor.lookahead) = outcome
    at hstep hrun
  generalize hlook : scanner.cursor.lookahead = lookahead at hstep hrun
  cases outcome with
  | goto next =>
    obtain ⟨hnext, c, hsome⟩ := Table.exists_lookahead_of_goto hstate hout
    obtain rfl := hlook.symm.trans hsome
    rw [consume_following h hlook] at hstep
    have hadvanced : (scanner.moveTo scanner.cursor.advance
        scanner.cursor.mode_advance).cursor.StandsIn input (consumed ++ [c]) := h.advance hlook
    obtain ⟨consumed', state', hmode, hstands, hreaches⟩ :=
      reaches_run hadvanced hnext iterating offset rfl told
        (pending ++ [.looked ⟨state, table.classes.classOf (some c), .goto next⟩]) calls
    subst hrun
    rw [List.append_assoc] at hreaches
    exact ⟨consumed', state', hmode.trans scanner.cursor.mode_advance, hstands,
      .head (hstep ▸ hreaches)⟩
  | reject =>
    cases lookahead with
    | none =>
      subst hrun
      exact ⟨consumed, state, rfl, h, .of_step hstep⟩
    | some c =>
      rw [consume_following h hlook] at hstep
      subst hrun
      exact ⟨_, state, scanner.cursor.mode_advance, h.advance hlook, .of_step hstep⟩
  | acceptEnd =>
    subst hrun
    exact ⟨consumed, state, rfl, h, .of_step hstep⟩
  | accept lexeme =>
    subst hrun
    exact ⟨consumed, state, rfl, h, .of_step hstep⟩
termination_by scanner.cursor.remaining
decreasing_by exact Cursor.remaining_advance_lt hlook

/-- An attempt, its end included, does what the round does. -/
theorem reaches_round (h : scanner.cursor.StandsIn input consumed) (iterating : Bool)
    (task : Task) (told : List (Answer × List Event)) (pending : List Event)
    (calls : List (Call σ)) :
    ∃ consumed' task', scanner.round.scanner.cursor.StandsIn input consumed' ∧
      ((following input consumed scanner task told pending calls).attempt iterating).Reaches
      ((following input consumed' scanner.round.scanner task' told
        (pending ++ scanner.round.events) calls).proceed iterating scanner.round.value) := by
  have hbegun : (scanner.moveTo scanner.cursor.beginToken rfl).cursor.StandsIn input consumed :=
    ⟨h.input_eq, h.pulls_eq, h.primed⟩
  obtain ⟨consumed', state', hmode, hstands, hreaches⟩ :=
    reaches_run hbegun (Table.lt_stateCount_of_mode scanner.mode_lt) iterating
      scanner.cursor.offset rfl told pending calls
  refine ⟨consumed', .scanning iterating state' scanner.cursor.offset, ?_, ?_⟩
  · rw [Scanner.round_eq_conclude, Scanner.cursor_conclude]
    exact ⟨hstands.input_eq, hstands.pulls_eq, hstands.primed⟩
  · rw [conclude_following, List.append_assoc] at hreaches
    rw [Scanner.round_eq_conclude]
    exact hreaches

/-- Before the end of the input, a call for a token begins with an attempt. -/
theorem ask_following (hlive : scanner.cursor.exhausted = false) (iterating : Bool) :
    (following input consumed scanner task told pending calls).ask iterating =
      (following input consumed scanner task told pending calls).attempt iterating :=
  if_neg (Bool.eq_false_iff.mp hlive)

/-- A call for a token is answered as it is for the list, by induction on its rounds. -/
theorem reaches_nextToken (h : scanner.cursor.StandsIn input consumed) (iterating : Bool)
    (task : Task) (told : List (Answer × List Event)) (pending : List Event)
    (calls : List (Call σ)) :
    ∃ consumed', scanner.nextToken.scanner.cursor.StandsIn input consumed' ∧
      ((following input consumed scanner task told pending calls).ask iterating).Reaches
      ((following input consumed' scanner.nextToken.scanner task told
        (pending ++ scanner.nextToken.events) calls).reply
          (.ofToken iterating scanner.nextToken.value)) := by
  refine Scanner.nextToken_induct (motive := fun scanner turn => ∀ consumed task pending,
    scanner.cursor.StandsIn input consumed →
      ∃ consumed', turn.scanner.cursor.StandsIn input consumed' ∧
        ((following input consumed scanner task told pending calls).ask iterating).Reaches
        ((following input consumed' turn.scanner task told (pending ++ turn.events) calls).reply
          (.ofToken iterating turn.value)))
    ?exhausted ?answered ?continued scanner consumed task pending h
  case exhausted =>
    intro scanner hexhausted consumed task pending h
    have hask : (following input consumed scanner task told pending calls).ask iterating =
        (following input consumed scanner task told pending calls).reply
          (.ofToken iterating scanner.endToken) := if_pos hexhausted
    refine ⟨consumed, h, ?_⟩
    rw [hask, List.append_nil]
    exact .refl _
  case answered =>
    intro scanner token hlive hround consumed task pending h
    obtain ⟨consumed', task', hstands, hreaches⟩ :=
      reaches_round h iterating task told pending calls
    rw [hround] at hreaches
    rw [ask_following hlive]
    exact ⟨consumed', hstands, hreaches⟩
  case continued =>
    intro scanner hlive hround ih consumed task pending h
    obtain ⟨consumed', task', hstands, hreaches⟩ :=
      reaches_round h iterating task told pending calls
    obtain ⟨consumed'', hends, hrest⟩ := ih consumed' task' (pending ++ scanner.round.events) hstands
    have hready := Scanner.ready_round ⟨h.primed, hlive⟩ hround
    rw [hround] at hreaches
    rw [ask_following hready.live, List.append_assoc] at hrest
    rw [ask_following hlive]
    exact ⟨consumed'', hends, hreaches.trans hrest⟩

end Following

end Work

namespace Transcript

/-- The work that goes with a transcript, of whose input some characters are consumed. -/
def atWork (transcript : Transcript table σ) (consumed : List Char) (calls : List (Call σ)) :
    Work table σ :=
  .following transcript.input consumed transcript.scanner .waiting transcript.told [] calls

variable {transcript : Transcript table σ} {consumed : List Char} {operation : Operation σ}

/-- A call for a token is recorded once it is answered. -/
theorem reaches_asked (h : transcript.scanner.cursor.StandsIn transcript.input consumed)
    (iterating : Bool) (calls : List (Call σ)) :
    ∃ consumed', transcript.scanner.nextToken.scanner.cursor.StandsIn transcript.input consumed' ∧
      ((transcript.atWork consumed calls).ask iterating).Reaches
      ((transcript.record { transcript.scanner.nextToken with
        value := .ofToken iterating transcript.scanner.nextToken.value }).atWork consumed' calls) := by
  obtain ⟨consumed', hstands, hreaches⟩ :=
    Work.reaches_nextToken h iterating .waiting transcript.told [] calls
  refine ⟨consumed', hstands, ?_⟩
  rw [atWork, atWork, told_record]
  exact hreaches

/-- A call that has to do with mode, position or hook only is recorded at once. -/
theorem reaches_tuned (h : operation.tunes = true) (calls : List (Call σ)) :
    (transcript.atWork consumed (.operate operation :: calls)).Reaches
      ((transcript.record (transcript.scanner.perform operation)).atWork consumed calls) := by
  have hstep : (transcript.atWork consumed (.operate operation :: calls)).step =
      (transcript.atWork consumed calls).carryOut operation :=
    (transcript.atWork consumed calls).takeUp_of_tunes h
  have hdetach : (transcript.atWork consumed calls).scanner.perform operation =
      (transcript.scanner.perform operation).detach := transcript.scanner.perform_detach h
  refine .of_step (hstep.trans ?_)
  rw [Work.carryOut, hdetach, atWork, atWork, told_record]
  rfl

/-- It leaves the scanner where it is. -/
theorem standsIn_perform (hstands : transcript.scanner.cursor.StandsIn transcript.input consumed)
    (h : operation.tunes = true) :
    (transcript.scanner.perform operation).scanner.cursor.StandsIn transcript.input consumed := by
  have hplace := (transcript.scanner.tunes_perform h).place
  refine ⟨?_, ?_, hplace.primed hstands.primed⟩
  · rw [hplace.unconsumed, ← hstands.input_eq]
  · rw [hplace.source, hstands.pulls_eq]

/-- One call does at a feed what it does at a list. -/
theorem reaches_perform (h : transcript.scanner.cursor.StandsIn transcript.input consumed)
    (operation : Operation σ) (calls : List (Call σ)) :
    ∃ consumed',
      (transcript.perform operation).scanner.cursor.StandsIn (transcript.perform operation).input
        consumed' ∧
      (transcript.atWork consumed (.operate operation :: calls)).Reaches
        ((transcript.perform operation).atWork consumed' calls) := by
  cases operation with
  | nextToken =>
    obtain ⟨consumed', hstands, hreaches⟩ := reaches_asked h false calls
    exact ⟨consumed', hstands, .head hreaches⟩
  | iterate =>
    obtain ⟨consumed', hstands, hreaches⟩ := reaches_asked h true calls
    exact ⟨consumed', hstands, .head hreaches⟩
  | reset input =>
    refine ⟨[], Cursor.standsIn_start input, .of_step ?_⟩
    exact Work.begin_ofList transcript.scanner input calls
  | _ => exact ⟨consumed, standsIn_perform h rfl, reaches_tuned rfl calls⟩

/-- So do all calls. -/
theorem reaches_play (transcript : Transcript table σ) (operations : List (Operation σ))
    (h : transcript.scanner.cursor.StandsIn transcript.input consumed) :
    ∃ consumed',
      (transcript.play operations).scanner.cursor.StandsIn (transcript.play operations).input
        consumed' ∧
      (transcript.atWork consumed (operations.map .operate)).Reaches
        ((transcript.play operations).atWork consumed' []) := by
  induction operations generalizing transcript consumed with
  | nil => exact ⟨consumed, h, .refl _⟩
  | cons operation operations ih =>
    obtain ⟨consumed', hstands, hreaches⟩ :=
      reaches_perform h operation (operations.map .operate)
    obtain ⟨consumed'', hends, hrest⟩ := ih (transcript.perform operation) hstands
    exact ⟨consumed'', hends, hreaches.trans hrest⟩

end Transcript

/-- Braces without end. -/
def Feed.endless : Feed := fun index => if index % 2 = 0 then some '\x7b' else some '\x7d'

/-- The same braces, but the fourth is missing: the feed goes on behind an answer without a
character. -/
def Feed.broken : Feed := fun index => if index = 3 then none else endless index

namespace Work

/-- A scanner looks exactly one character ahead, at every feed and whatever is called.

At every moment since it began on a feed it has asked for one character more than it has consumed,
and has consumed what came first; and however the feed would go on, nothing was asked for behind an
answer without a character. At two feeds that agree on their first answers a scanner has done, told
and become the same, as long as no more than these were asked for. If the feed is a list, what it
comes to tell is what the transcript of the calls tells. -/
theorem looks_one_ahead (scanner : Scanner table σ) (feed : Feed) (calls : List (Call σ)) :
    (∀ steps, let work := (begin scanner feed calls).run steps
      work.pulls = work.consumed.length + 1 ∧
        (∀ index < work.consumed.length, work.feed index = work.consumed[index]?) ∧
        ∀ index, work.feed index = none → work.pulls ≤ index + 1) ∧
      (∀ (count : Nat) (other : Feed), (∀ index < count, other index = feed index) → ∀ steps,
        (∀ earlier ≤ steps, ((begin scanner feed calls).run earlier).pulls ≤ count) →
          let work := (begin scanner feed calls).run steps
          let otherWork := (begin scanner other calls).run steps
          otherWork = work.onFeed otherWork.feed) ∧
      ∀ (input : List Char) (operations : List (Operation σ)),
        let transcript := Transcript.play ⟨input, [], scanner.reset input⟩ operations
        ∃ steps consumed, (begin scanner (.ofList input) (operations.map .operate)).run steps =
            transcript.atWork consumed [] ∧
          transcript.input = consumed ++ transcript.scanner.cursor.unconsumed ∧
          transcript.scanner.cursor.source.pulls = consumed.length + 1 := by
  refine ⟨fun steps => ?_, fun count other hagree steps hpulls => ?_, fun input operations => ?_⟩
  · have hcounted := (counted_begin scanner feed calls).run steps
    exact ⟨hcounted.pulls_eq, hcounted.consumed_eq, fun index => hcounted.pulls_le⟩
  · have hfirst : 0 < count := hpulls 0 (Nat.zero_le _)
    exact ((agree_begin scanner calls hfirst hagree).run steps hpulls).same
  · have hstands := Cursor.standsIn_start input
    obtain ⟨consumed, hends, steps, hsteps⟩ :=
      Transcript.reaches_play ⟨input, [], scanner.reset input⟩ operations hstands
    rw [begin_ofList]
    exact ⟨steps, consumed, hsteps, hends.input_eq, hends.pulls_eq⟩

/-- Three braces are enough for two tokens, so that the feeds are not told apart by them. Where the
fourth brace is missing, two more tokens bring the end, and the braces behind it are not asked for. -/
theorem looks_one_ahead_endless :
    let scanner := Scanner.start Table.braces [] ()
    let calls : List (Call Unit) :=
      [.operate .nextToken, .operate .iterate, .operate .nextToken, .operate .nextToken,
        .operate .nextToken]
    let work := (begin scanner .endless calls).run 6
    let otherWork := (begin scanner .broken calls).run 6
    let lastWork := (begin scanner .broken calls).run 20
    ((∀ index < 3, Feed.broken index = Feed.endless index) ∧
        ∀ earlier ≤ 6, ((begin scanner .endless calls).run earlier).pulls ≤ 3) ∧
      work.told.map (fun call => call.1) =
        [.token ⟨⟨1⟩, "\x7b", 0, 1⟩, .item (some ⟨⟨3⟩, "\x7d", 1, 1⟩)] ∧
      otherWork = work.onFeed otherWork.feed ∧
      (lastWork.told.map (fun call => call.1)).drop 2 =
        [.token ⟨⟨1⟩, "\x7b", 2, 1⟩, .token ⟨.endOfInput, "", 3, 1⟩,
          .token ⟨.endOfInput, "", 3, 1⟩] ∧
      lastWork.pulls ≤ 4 := by
  intro scanner calls work otherWork lastWork
  have hagree : ∀ index < 3, Feed.broken index = Feed.endless index := by decide
  have hpulls : ∀ earlier ≤ 6, ((begin scanner .endless calls).run earlier).pulls ≤ 3 := by
    decide +kernel
  have hfeed : ((begin scanner .broken calls).run 20).feed 3 = none := by decide +kernel
  have hlast := (looks_one_ahead scanner .broken calls).1 20
  exact ⟨⟨hagree, hpulls⟩, by decide +kernel,
    (looks_one_ahead scanner .endless calls).2.1 3 .broken hagree 6 hpulls, by decide +kernel,
    hlast.2.2 3 hfeed⟩

end Work

end ScanSchema
