import ScanSchema.Proofs.Scan.Transcript
import Mathlib.Logic.Function.Iterate

/-!
# Scanners at work, step by step

A source of characters need not be a list: it may never end, and it may go on after it has answered
that it has none. On such a `Feed` a call may never be answered. `Work` is a scanner in the middle of
its calls, and `Work.step` does as little as one look-up, so that what a scanner has done by any moment
can be told whether or not the call that it is at will end.

Every step keeps count: the feed was asked once more than there are characters consumed, and nothing
was asked for behind the first answer without a character (`Work.Counted`). A step that asks for a
character is the only one that depends on the feed, which is why two feeds that begin alike cannot be
told apart before they differ (`Work.Agree.run`).
-/

namespace ScanSchema

/-- A source that need not end: what it answers when it is asked for the character of each number. -/
abbrev Feed := Nat → Option Char

/-- The source that ends behind some characters. -/
def Feed.ofList (chars : List Char) : Feed := fun index => chars[index]?

/-- One call of a scanner at a feed. -/
inductive Call (σ : Type) where
  /-- A call of any kind; if it begins another input, that one ends. -/
  | operate (operation : Operation σ)
  /-- Begin again on another feed. -/
  | restart (feed : Feed)

/-- The answer to a call for a token, or to one for a token unless it is the end. -/
def Answer.ofToken (iterating : Bool) (token : Token) : Answer :=
  if iterating then .item token.unlessEnd else .token token

/-- Consume the lookahead and ask a feed for the next character. At the end nothing is consumed. -/
def Cursor.advanceOn (feed : Feed) (cursor : Cursor) : Cursor :=
  match cursor.lookahead with
  | none => cursor
  | some _ =>
    { cursor with
      source := { cursor.source with unread := (feed cursor.source.pulls).toList } }.advance

/-- Consuming a character moves the answer of the feed into the lookahead. -/
theorem Cursor.advanceOn_of_some {cursor : Cursor} {c : Char} (h : cursor.lookahead = some c)
    (feed : Feed) :
    (cursor.advanceOn feed).lookahead = feed cursor.source.pulls ∧
      (cursor.advanceOn feed).source.pulls = cursor.source.pulls + 1 := by
  obtain ⟨mode, lookahead, source, text, tokenLine, line, offset, exhausted⟩ := cursor
  cases h
  refine ⟨?_, rfl⟩
  dsimp only [advanceOn, advance, Source.pull]
  cases feed source.pulls <;> rfl

/-- Consuming a character leaves the mode as it is. -/
theorem Cursor.mode_advanceOn (feed : Feed) (cursor : Cursor) :
    (cursor.advanceOn feed).mode = cursor.mode := by
  unfold advanceOn
  split
  · rfl
  · exact mode_advance _

/-- What a scanner is at between two steps. -/
inductive Task where
  /-- It waits for a call. -/
  | waiting
  /-- It looks for the token that it was asked for. The attempt began at `offset`, and has come to
  `state`. -/
  | scanning (iterating : Bool) (state offset : Nat)

/-- A scanner in the middle of its calls. The source of its cursor holds no characters: all of them
come from the feed. -/
structure Work (table : Table) (σ : Type) where
  /-- The source. -/
  feed : Feed
  /-- All characters consumed since the source was begun. -/
  consumed : List Char
  /-- The scanner now. -/
  scanner : Scanner table σ
  /-- What it is at. -/
  task : Task
  /-- What the calls since then have told: the answer of each and what happened in it. -/
  told : List (Answer × List Event)
  /-- What has happened in the present call so far. -/
  pending : List Event
  /-- The calls to come. -/
  calls : List (Call σ)

namespace Work

variable {table : Table} {σ : Type}

/-- How often the feed was asked for a character. -/
def pulls (work : Work table σ) : Nat := work.scanner.cursor.source.pulls

/-- A scanner that begins on a feed, be it a new one or one that is reset. -/
def begin (scanner : Scanner table σ) (feed : Feed) (calls : List (Call σ)) : Work table σ :=
  ⟨feed, [], scanner.reset (feed 0).toList, .waiting, [], [], calls⟩

/-- Consume the lookahead. -/
def consume (work : Work table σ) : Work table σ :=
  { work with
    consumed := work.consumed ++ work.scanner.cursor.lookahead.toList
    scanner := work.scanner.moveTo (work.scanner.cursor.advanceOn work.feed)
      (Cursor.mode_advanceOn _ _) }

/-- Something happens in the present call. -/
def note (work : Work table σ) (events : List Event) : Work table σ :=
  { work with pending := work.pending ++ events }

/-- Something that a part of the present call has brought. -/
def adopt {α : Type} (work : Work table σ) (turn : Turn table σ α) : Work table σ :=
  { work with scanner := turn.scanner, pending := work.pending ++ turn.events }

/-- Answer the present call. -/
def reply (work : Work table σ) (answer : Answer) : Work table σ :=
  { work with task := .waiting, told := work.told ++ [(answer, work.pending)], pending := [] }

/-- Begin an attempt. -/
def attempt (work : Work table σ) (iterating : Bool) : Work table σ :=
  { work with
    scanner := work.scanner.moveTo work.scanner.cursor.beginToken rfl
    task := .scanning iterating work.scanner.cursor.mode work.scanner.cursor.offset }

/-- Answer with the token that came of an attempt, or begin the next one. -/
def proceed (work : Work table σ) (iterating : Bool) : Option Token → Work table σ
  | some token => work.reply (.ofToken iterating token)
  | none => work.attempt iterating

/-- End an attempt that has stopped where the scanner stands. -/
def conclude (work : Work table σ) (iterating : Bool) (offset : Nat) (stop : Stop) : Work table σ :=
  let turn := work.scanner.conclude offset stop
  (work.adopt turn).proceed iterating turn.value

/-- Begin a call for a token. After the end, the end comes again at once. -/
def ask (work : Work table σ) (iterating : Bool) : Work table σ :=
  if work.scanner.cursor.exhausted then work.reply (.ofToken iterating work.scanner.endToken)
  else work.attempt iterating

/-- Carry out a call that does not ask for a token. -/
def carryOut (work : Work table σ) (operation : Operation σ) : Work table σ :=
  let turn := work.scanner.perform operation
  (work.adopt turn).reply turn.value

/-- The same with other calls to come. -/
def withCalls (work : Work table σ) (calls : List (Call σ)) : Work table σ := { work with calls }

/-- Take up a call. -/
def takeUp (work : Work table σ) : Call σ → Work table σ
  | .operate .nextToken => work.ask false
  | .operate .iterate => work.ask true
  | .operate (.reset input) => begin work.scanner (.ofList input) work.calls
  | .operate operation => work.carryOut operation
  | .restart feed => begin work.scanner feed work.calls

/-- A call that has to do with mode, position or hook only is carried out at once. -/
theorem takeUp_of_tunes (work : Work table σ) {operation : Operation σ}
    (h : operation.tunes = true) : work.takeUp (.operate operation) = work.carryOut operation := by
  cases operation with
  | nextToken => cases h
  | iterate => cases h
  | reset input => cases h
  | _ => rfl

/-- Look one outcome up. Going on and rejecting consume the next character, accepting leaves it. -/
def lookUp (work : Work table σ) (iterating : Bool) (state offset : Nat) : Work table σ :=
  let lookahead := work.scanner.cursor.lookahead
  let cls := table.classes.classOf lookahead
  let outcome := table.outcome state cls
  let noted := work.note [.looked ⟨state, cls, outcome⟩]
  match outcome, lookahead with
  | .goto next, _ => { noted.consume with task := .scanning iterating next offset }
  | .reject, none => noted.conclude iterating offset .unexpectedEnd
  | .reject, some _ => noted.consume.conclude iterating offset .invalid
  | .acceptEnd, _ => noted.conclude iterating offset .endOfInput
  | .accept lexeme, _ => noted.conclude iterating offset (.matched lexeme)

/-- Do the next step. Without a call to take up there is none. -/
def step (work : Work table σ) : Work table σ :=
  match work.task with
  | .scanning iterating state offset => work.lookUp iterating state offset
  | .waiting =>
    match work.calls with
    | [] => work
    | call :: calls => (work.withCalls calls).takeUp call

/-- Do some steps. -/
def run (work : Work table σ) (steps : Nat) : Work table σ := step^[steps] work

/-- The same at another feed. -/
def onFeed (work : Work table σ) (feed : Feed) : Work table σ := { work with feed }

/-- The work is at the new feed. -/
@[simp] theorem feed_onFeed (work : Work table σ) (feed : Feed) :
    (work.onFeed feed).feed = feed := rfl

/-- Its scanner is the same. -/
@[simp] theorem scanner_onFeed (work : Work table σ) (feed : Feed) :
    (work.onFeed feed).scanner = work.scanner := rfl

/-- So is what the scanner is at. -/
@[simp] theorem task_onFeed (work : Work table σ) (feed : Feed) :
    (work.onFeed feed).task = work.task := rfl

/-- So are the calls to come. -/
@[simp] theorem calls_onFeed (work : Work table σ) (feed : Feed) :
    (work.onFeed feed).calls = work.calls := rfl

section Parts

/-- A part of a step that has nothing to do with the feed: it consumes nothing and asks for nothing,
and does the same at every feed. -/
structure Aside (part : Work table σ → Work table σ) : Prop where
  /-- Nothing is consumed. -/
  consumed_eq : ∀ work, (part work).consumed = work.consumed
  /-- The next character is the same. -/
  lookahead_eq : ∀ work, (part work).scanner.cursor.lookahead = work.scanner.cursor.lookahead
  /-- Nothing was asked for. -/
  source_eq : ∀ work, (part work).scanner.cursor.source = work.scanner.cursor.source
  /-- The feed does not matter. -/
  feed_free : ∀ (work : Work table σ) (feed : Feed),
    part (work.onFeed feed) = (part work).onFeed feed

variable {first second : Work table σ → Work table σ}

/-- The feed stays the same. -/
theorem Aside.feed_eq (h : Aside first) (work : Work table σ) :
    (first work).feed = work.feed := by
  have hfree : first work = (first work).onFeed work.feed := h.feed_free work work.feed
  rw [hfree, feed_onFeed]

/-- Nothing is counted. -/
theorem Aside.pulls_eq (h : Aside first) (work : Work table σ) : (first work).pulls = work.pulls :=
  congrArg Source.pulls (h.source_eq work)

/-- Two such parts make one. -/
theorem Aside.comp (hsecond : Aside second) (hfirst : Aside first) :
    Aside fun work => second (first work) where
  consumed_eq work := (hsecond.consumed_eq _).trans (hfirst.consumed_eq work)
  lookahead_eq work := (hsecond.lookahead_eq _).trans (hfirst.lookahead_eq work)
  source_eq work := (hsecond.source_eq _).trans (hfirst.source_eq work)
  feed_free work feed := by rw [hfirst.feed_free, hsecond.feed_free]

/-- Taking note of events has nothing to do with the feed. -/
theorem aside_note (events : List Event) : Aside fun work : Work table σ => work.note events :=
  ⟨fun _ => rfl, fun _ => rfl, fun _ => rfl, fun _ _ => rfl⟩

/-- Nor has answering a call. -/
theorem aside_reply (answer : Answer) : Aside fun work : Work table σ => work.reply answer :=
  ⟨fun _ => rfl, fun _ => rfl, fun _ => rfl, fun _ _ => rfl⟩

/-- Nor has beginning an attempt. -/
theorem aside_attempt (iterating : Bool) :
    Aside fun work : Work table σ => work.attempt iterating :=
  ⟨fun _ => rfl, fun _ => rfl, fun _ => rfl, fun _ _ => rfl⟩

/-- Nor has going on behind one. -/
theorem aside_proceed (iterating : Bool) (token : Option Token) :
    Aside fun work : Work table σ => work.proceed iterating token := by
  cases token with
  | some token => exact aside_reply _
  | none => exact aside_attempt iterating

/-- Nor has ending one, since its characters are consumed by then. -/
theorem aside_conclude (iterating : Bool) (offset : Nat) (stop : Stop) :
    Aside fun work : Work table σ => work.conclude iterating offset stop where
  consumed_eq work := (aside_proceed iterating _).consumed_eq _
  lookahead_eq work := by
    rw [conclude, (aside_proceed iterating _).lookahead_eq, adopt, Scanner.cursor_conclude]
  source_eq work := by
    rw [conclude, (aside_proceed iterating _).source_eq, adopt, Scanner.cursor_conclude]
  feed_free work feed :=
    (aside_proceed iterating _).feed_free (work.adopt (work.scanner.conclude offset stop)) feed

/-- A call for a token is answered with the end, or an attempt begins. -/
theorem ask_cases (work : Work table σ) (iterating : Bool) :
    work.ask iterating = work.reply (.ofToken iterating work.scanner.endToken) ∨
      work.ask iterating = work.attempt iterating := by
  unfold ask
  split
  · exact .inl rfl
  · exact .inr rfl

/-- Beginning a call for a token has nothing to do with the feed. -/
theorem aside_ask (iterating : Bool) : Aside fun work : Work table σ => work.ask iterating where
  consumed_eq work := by rcases work.ask_cases iterating with h | h <;> rw [h] <;> rfl
  lookahead_eq work := by rcases work.ask_cases iterating with h | h <;> rw [h] <;> rfl
  source_eq work := by rcases work.ask_cases iterating with h | h <;> rw [h] <;> rfl
  feed_free work feed := by
    unfold ask
    rw [scanner_onFeed]
    split <;> rfl

/-- Nor has a call that only has to do with mode, position or hook. -/
theorem aside_carryOut {operation : Operation σ} (h : operation.tunes = true) :
    Aside fun work : Work table σ => work.carryOut operation where
  consumed_eq _ := rfl
  lookahead_eq work := (work.scanner.tunes_perform h).place.lookahead
  source_eq work := (work.scanner.tunes_perform h).place.source
  feed_free _ _ := rfl

end Parts

section Steps

/-- The three kinds of steps, each told for all feeds at which the step could be done. -/
inductive Stepped (work : Work table σ) : Prop where
  /-- The feed does not matter. -/
  | aside (part : Work table σ → Work table σ) (hpart : Aside part)
    (h : ∀ feed, (work.onFeed feed).step = part (work.onFeed feed))
  /-- The scanner begins on another feed. -/
  | begun (feed : Feed) (calls : List (Call σ))
    (h : ∀ old, (work.onFeed old).step = begin work.scanner feed calls)
  /-- A character is consumed, and the feed is asked for the next one. -/
  | consumed (c : Char) (hlook : work.scanner.cursor.lookahead = some c)
    (part : Work table σ → Work table σ) (hpart : Aside part)
    (h : ∀ feed, (work.onFeed feed).step = part (work.onFeed feed).consume)

variable {work : Work table σ}

/-- Without a lookahead there is nothing to consume. -/
theorem consume_of_none (h : work.scanner.cursor.lookahead = none) : work.consume = work := by
  have hcursor : work.scanner.cursor.advanceOn work.feed = work.scanner.cursor := by
    rw [Cursor.advanceOn, h]
  obtain ⟨feed, consumed, ⟨cursor, mode_lt, hook, memory⟩, task, told, pending, calls⟩ := work
  dsimp only at h hcursor
  simp only [consume, Scanner.moveTo, hcursor, h, Option.toList_none, List.append_nil]

/-- What may consume the lookahead and then does something aside is a step of one of these kinds. -/
theorem Stepped.of_consume {part : Work table σ → Work table σ} (hpart : Aside part)
    (h : ∀ feed, (work.onFeed feed).step = part (work.onFeed feed).consume) :
    work.Stepped := by
  cases hlook : work.scanner.cursor.lookahead with
  | some c => exact .consumed c hlook part hpart h
  | none =>
    refine .aside part hpart fun feed => (h feed).trans ?_
    have hfed : (work.onFeed feed).scanner.cursor.lookahead = none := hlook
    exact congrArg part (consume_of_none hfed)

/-- Looking an outcome up consumes the lookahead, if there is one, or does not ask the feed. -/
theorem stepped_of_scanning {iterating : Bool} {state offset : Nat}
    (htask : work.task = .scanning iterating state offset) : work.Stepped := by
  have hstep : ∀ feed, (work.onFeed feed).step =
      (work.onFeed feed).lookUp iterating state offset := by
    intro feed
    rw [step, task_onFeed, htask]
  simp only [lookUp, scanner_onFeed] at hstep
  generalize hcls : table.classes.classOf work.scanner.cursor.lookahead = cls at hstep
  generalize hout : table.outcome state cls = outcome at hstep
  have hnoted : Aside fun work : Work table σ => work.note [.looked ⟨state, cls, outcome⟩] :=
    aside_note _
  cases outcome with
  | goto next =>
    have hgoing : Aside fun work : Work table σ =>
        { work with task := .scanning iterating next offset } :=
      ⟨fun _ => rfl, fun _ => rfl, fun _ => rfl, fun _ _ => rfl⟩
    exact .of_consume (hgoing.comp hnoted) hstep
  | reject =>
    cases hlook : work.scanner.cursor.lookahead with
    | none =>
      refine .aside _ ((aside_conclude iterating offset .unexpectedEnd).comp hnoted) fun feed => ?_
      rw [hstep, hlook]
    | some c =>
      refine .of_consume ((aside_conclude iterating offset .invalid).comp hnoted) fun feed => ?_
      rw [hstep, hlook]
      rfl
  | acceptEnd => exact .aside _ ((aside_conclude iterating offset .endOfInput).comp hnoted) hstep
  | accept lexeme =>
    exact .aside _ ((aside_conclude iterating offset (.matched lexeme)).comp hnoted) hstep

/-- Every step is of one of the three kinds. -/
theorem stepped (work : Work table σ) : work.Stepped := by
  cases htask : work.task with
  | scanning iterating state offset => exact stepped_of_scanning htask
  | waiting =>
    cases hcalls : work.calls with
    | nil =>
      refine .aside id ⟨fun _ => rfl, fun _ => rfl, fun _ => rfl, fun _ _ => rfl⟩ fun feed => ?_
      rw [step, task_onFeed, calls_onFeed, htask, hcalls]
      rfl
    | cons call calls =>
      have hcalled : Aside fun work : Work table σ => work.withCalls calls :=
        ⟨fun _ => rfl, fun _ => rfl, fun _ => rfl, fun _ _ => rfl⟩
      have hstep : ∀ feed, (work.onFeed feed).step =
          ((work.onFeed feed).withCalls calls).takeUp call := by
        intro feed
        rw [step, task_onFeed, calls_onFeed, htask, hcalls]
      cases call with
      | restart feed => exact .begun feed calls hstep
      | operate operation =>
        cases operation with
        | nextToken => exact .aside _ ((aside_ask false).comp hcalled) hstep
        | iterate => exact .aside _ ((aside_ask true).comp hcalled) hstep
        | reset input => exact .begun (.ofList input) calls hstep
        | _ => exact .aside _ ((aside_carryOut rfl).comp hcalled) hstep

end Steps

section Count

/-- The feed was asked for all characters that are consumed and for the next one, and for nothing
else. -/
structure Counted (work : Work table σ) : Prop where
  /-- It was asked once more than there are characters consumed. -/
  pulls_eq : work.pulls = work.consumed.length + 1
  /-- What it answered first was consumed. -/
  consumed_eq : ∀ index < work.consumed.length, work.feed index = work.consumed[index]?
  /-- What it answered last is the lookahead. -/
  lookahead_eq : work.scanner.cursor.lookahead = work.feed work.consumed.length

variable {work : Work table σ}

/-- In the beginning one character was asked for, and none is consumed. -/
theorem counted_begin (scanner : Scanner table σ) (feed : Feed) (calls : List (Call σ)) :
    (begin scanner feed calls).Counted where
  pulls_eq := rfl
  consumed_eq index hindex := absurd hindex (Nat.not_lt_zero index)
  lookahead_eq := by
    show (feed 0).toList.head? = feed 0
    cases feed 0 <;> rfl

/-- What has nothing to do with the feed changes none of these counts. -/
theorem Counted.aside (h : work.Counted) {part : Work table σ → Work table σ} (hpart : Aside part) :
    (part work).Counted where
  pulls_eq := by rw [hpart.pulls_eq, hpart.consumed_eq, h.pulls_eq]
  consumed_eq := by
    rw [hpart.feed_eq, hpart.consumed_eq]
    exact h.consumed_eq
  lookahead_eq := by rw [hpart.lookahead_eq, hpart.feed_eq, hpart.consumed_eq, h.lookahead_eq]

/-- What consuming a character does to the count. -/
theorem consume_of_some {c : Char} (hlook : work.scanner.cursor.lookahead = some c) :
    work.consume.consumed = work.consumed ++ [c] ∧
      work.consume.scanner.cursor.lookahead = work.feed work.pulls ∧
      work.consume.pulls = work.pulls + 1 := by
  have hconsumed : work.consume.consumed =
      work.consumed ++ work.scanner.cursor.lookahead.toList := rfl
  rw [hlook] at hconsumed
  exact ⟨hconsumed, Cursor.advanceOn_of_some hlook work.feed⟩

/-- Consuming a character asks for one more. -/
theorem Counted.consume (h : work.Counted) {c : Char}
    (hlook : work.scanner.cursor.lookahead = some c) : work.consume.Counted := by
  obtain ⟨hconsumed, hnext, hpulls⟩ := consume_of_some hlook
  have hlength : work.consume.consumed.length = work.consumed.length + 1 := by
    rw [hconsumed, List.length_append, List.length_singleton]
  constructor
  case pulls_eq => rw [hpulls, hlength, h.pulls_eq]
  case lookahead_eq => rw [hnext, hlength, h.pulls_eq]; rfl
  case consumed_eq =>
    intro index hindex
    show work.feed index = work.consume.consumed[index]?
    rw [hlength] at hindex
    rw [hconsumed]
    rcases Nat.lt_succ_iff_lt_or_eq.mp hindex with hbefore | rfl
    · rw [List.getElem?_append_left hbefore, h.consumed_eq index hbefore]
    · rw [List.getElem?_concat_length, ← h.lookahead_eq, hlook]

/-- Every step keeps the count. -/
theorem Counted.step (h : work.Counted) : work.step.Counted := by
  cases work.stepped with
  | aside part hpart hstep =>
    rw [show work.step = part work from hstep work.feed]
    exact h.aside hpart
  | begun feed calls hstep =>
    rw [show work.step = begin work.scanner feed calls from hstep work.feed]
    exact counted_begin _ feed calls
  | consumed c hlook part hpart hstep =>
    rw [show work.step = part work.consume from hstep work.feed]
    exact (h.consume hlook).aside hpart

/-- So do all steps. -/
theorem Counted.run (h : work.Counted) (steps : Nat) : (work.run steps).Counted := by
  induction steps with
  | zero => exact h
  | succ steps ih =>
    rw [Work.run, Function.iterate_succ_apply']
    exact ih.step

/-- Behind an answer without a character the feed is not asked again. -/
theorem Counted.pulls_le (h : work.Counted) {index : Nat} (hnone : work.feed index = none) :
    work.pulls ≤ index + 1 := by
  by_contra hlt
  have hindex : index < work.consumed.length := by
    rw [h.pulls_eq] at hlt
    omega
  have hanswer := h.consumed_eq index hindex
  rw [hnone, List.getElem?_eq_getElem hindex] at hanswer
  cases hanswer

end Count

section Agree

/-- Two scanners at work that are the same but for their feeds, which agree on the first characters. -/
structure Agree (count : Nat) (first second : Work table σ) : Prop where
  /-- All but the feeds is the same. -/
  same : second = first.onFeed second.feed
  /-- The first answers are the same. -/
  feed_eq : ∀ index < count, second.feed index = first.feed index

variable {count : Nat} {first second : Work table σ}

/-- What has nothing to do with the feeds is the same at both. -/
theorem Agree.aside (h : Agree count first second) {part : Work table σ → Work table σ}
    (hpart : Aside part) : Agree count (part first) (part second) where
  same := by rw [hpart.feed_eq, ← hpart.feed_free, ← h.same]
  feed_eq := by
    rw [hpart.feed_eq, hpart.feed_eq]
    exact h.feed_eq

/-- Two feeds that agree do so on what was asked for to begin with. -/
theorem agree_begin (scanner : Scanner table σ) {feed other : Feed} (calls : List (Call σ))
    (hpulls : 0 < count) (h : ∀ index < count, other index = feed index) :
    Agree count (begin scanner feed calls) (begin scanner other calls) := by
  refine ⟨?_, h⟩
  unfold begin
  rw [h 0 hpulls]
  rfl

/-- Asked for a character on which the feeds agree, they give the same. -/
theorem Agree.consume (h : Agree count first second) (hpulls : first.pulls < count) :
    Agree count first.consume second.consume := by
  obtain ⟨hsame, hfeed⟩ := h
  generalize second.feed = feed at hsame hfeed
  subst hsame
  refine ⟨?_, hfeed⟩
  have hcursor : first.scanner.cursor.advanceOn feed = first.scanner.cursor.advanceOn first.feed := by
    have hnext : feed first.scanner.cursor.source.pulls =
        first.feed first.scanner.cursor.source.pulls := hfeed first.pulls hpulls
    rw [Cursor.advanceOn, Cursor.advanceOn, hnext]
  simp only [Work.consume, onFeed, Scanner.moveTo, hcursor]

/-- A step keeps two scanners the same, as long as the feeds agree on all that was asked for. -/
theorem Agree.step (h : Agree count first second) (hpulls : first.step.pulls ≤ count) :
    Agree count first.step second.step := by
  cases first.stepped with
  | aside part hpart hstep =>
    rw [show first.step = part first from hstep first.feed, h.same, hstep second.feed, ← h.same]
    exact h.aside hpart
  | begun next calls hstep =>
    rw [show first.step = begin first.scanner next calls from hstep first.feed, h.same,
      hstep second.feed]
    exact ⟨rfl, fun _ _ => rfl⟩
  | consumed c hlook part hpart hstep =>
    have hfirst : first.step = part first.consume := hstep first.feed
    rw [hfirst, hpart.pulls_eq, (consume_of_some hlook).2.2] at hpulls
    rw [hfirst, h.same, hstep second.feed, ← h.same]
    exact (h.consume hpulls).aside hpart

/-- So do all steps. -/
theorem Agree.run (h : Agree count first second) (steps : Nat)
    (hpulls : ∀ earlier ≤ steps, (first.run earlier).pulls ≤ count) :
    Agree count (first.run steps) (second.run steps) := by
  induction steps with
  | zero => exact h
  | succ steps ih =>
    have hlast := hpulls (steps + 1) (Nat.le_refl _)
    have hsame := ih fun earlier hle => hpulls earlier (Nat.le_succ_of_le hle)
    rw [Work.run, Function.iterate_succ_apply'] at hlast
    rw [Work.run, Work.run, Function.iterate_succ_apply', Function.iterate_succ_apply']
    exact hsame.step hlast

end Agree

end Work

end ScanSchema
