import ScanSchema.Scan.Attempt
import ScanSchema.Text.Bytes

/-!
# What an attempt reads

An attempt moves a cursor over a source; here the same way is followed over a plain list of
characters. `Automaton.walk` goes on until the first outcome that does not go on, and says what it
read, what it left and where it stopped. The main statement, `Automaton.run_spec`, gives the result
of every attempt in these terms: why it stopped, and the cursor past the characters it consumed. It
asks for a primed cursor, one whose lookahead is missing only where no character is left.
`Automaton.Reads` is the path of a walk through the automaton.
-/

namespace ScanSchema

/-- Where a character of the input stands. -/
structure Location where
  /-- The bytes before it. -/
  offset : Nat
  /-- The line it is in. -/
  line : Nat
  deriving DecidableEq, Repr

namespace Location

/-- The location of the first character of an input. -/
def start : Location := ⟨0, 1⟩

/-- The location behind a text that begins at one: every character counts its bytes, and every
newline a line. -/
def after (location : Location) (text : List Char) : Location :=
  ⟨location.offset + Text.byteLength text, location.line + text.count '\n'⟩

/-- Behind no text the location is the same. -/
theorem after_nil (location : Location) : location.after [] = location := rfl

/-- A text in two parts leads as far as its parts in turn. -/
theorem after_append (location : Location) (front back : List Char) :
    location.after (front ++ back) = (location.after front).after back := by
  simp only [after, Text.byteLength_append, List.count_append, Nat.add_assoc]

end Location

namespace Cursor

/-- The lookahead is missing only where no character is left. -/
def Primed (cursor : Cursor) : Prop := cursor.lookahead = none → cursor.source.unread = []

/-- The location of the next character. -/
def location (cursor : Cursor) : Location := ⟨cursor.offset, cursor.line⟩

/-- The cursor once `text` is consumed and `rest` is what remains. -/
def past (cursor : Cursor) (text rest : List Char) : Cursor :=
  { cursor with
    lookahead := rest.head?
    source := ⟨rest.tail, cursor.source.pulls + text.length⟩
    text := cursor.text ++ String.ofList text
    line := (cursor.location.after text).line
    offset := (cursor.location.after text).offset }

/-- A cursor has its first character in hand from the start. -/
theorem primed_start (input : List Char) : (start input).Primed := by
  cases input with
  | nil => exact fun _ => rfl
  | cons c rest => exact fun h => by cases h

/-- Whatever is consumed, the next character is in hand behind it. -/
theorem primed_past (cursor : Cursor) (text rest : List Char) : (cursor.past text rest).Primed := by
  cases rest with
  | nil => exact fun _ => rfl
  | cons c rest => exact fun h => by cases h

/-- What remains is all that is not consumed. -/
theorem unconsumed_past (cursor : Cursor) (text rest : List Char) :
    (cursor.past text rest).unconsumed = rest := by
  cases rest <;> rfl

/-- Consuming two texts in turn is consuming them as one. -/
theorem past_past (cursor : Cursor) (front back middle rest : List Char) :
    (cursor.past front middle).past back rest = cursor.past (front ++ back) rest := by
  simp only [past, location, Location.after_append, String.ofList_append, String.append_assoc,
    List.length_append, Nat.add_assoc]

/-- A primed cursor has the characters that remain in front of it, the first as its lookahead. -/
theorem past_nil {cursor : Cursor} (h : cursor.Primed) :
    cursor.past [] cursor.unconsumed = cursor := by
  obtain ⟨mode, lookahead, ⟨unread, pulls⟩, text, tokenLine, line, offset, exhausted⟩ := cursor
  cases lookahead with
  | none =>
    have hunread : unread = [] := h rfl
    subst hunread
    simp only [past, location, unconsumed, Location.after_nil, String.ofList_nil, String.append_empty,
      Option.toList_none, List.nil_append, List.head?_nil, List.tail_nil, List.length_nil,
      Nat.add_zero]
  | some c =>
    simp only [past, location, unconsumed, Location.after_nil, String.ofList_nil, String.append_empty,
      Option.toList_some, List.cons_append, List.nil_append, List.head?_cons, List.tail_cons,
      List.length_nil, Nat.add_zero]

/-- Consuming the lookahead is consuming a text of one character. -/
theorem advance_eq_past {cursor : Cursor} {c : Char} (h : cursor.lookahead = some c) :
    cursor.advance = cursor.past [c] cursor.source.unread := by
  have hline : (if c = '\n' then cursor.line + 1 else cursor.line) =
      cursor.line + [c].count '\n' := by
    by_cases hc : c = '\n'
    · rw [if_pos hc, hc]
      rfl
    · rw [if_neg hc, List.count_singleton, if_neg (by simpa using hc), Nat.add_zero]
  have htext : cursor.text.push c = cursor.text ++ String.ofList [c] := by
    rw [String.push_eq_append, String.singleton_eq_ofList]
  simp only [advance, h, Source.pull, past, location, Location.after, Text.byteLength, hline, htext,
    List.length_singleton, Nat.add_zero]

/-- Without a lookahead nothing remains. -/
theorem unconsumed_of_lookahead_none {cursor : Cursor} (h : cursor.Primed)
    (hnone : cursor.lookahead = none) : cursor.unconsumed = [] := by
  rw [unconsumed, hnone, h hnone]
  rfl

/-- The lookahead is the first of the characters that remain. -/
theorem unconsumed_of_lookahead_some {cursor : Cursor} {c : Char}
    (hsome : cursor.lookahead = some c) : cursor.unconsumed = c :: cursor.source.unread := by
  rw [unconsumed, hsome]
  rfl

/-- Nothing remains exactly if there is no lookahead and nothing is unread. -/
theorem unconsumed_eq_nil_iff {cursor : Cursor} :
    cursor.unconsumed = [] ↔ cursor.lookahead = none ∧ cursor.source.unread = [] := by
  rw [unconsumed, List.append_eq_nil_iff, Option.toList_eq_nil_iff]

end Cursor

/-- The way of an automaton over some characters. -/
structure Walk where
  /-- The characters it goes on with. -/
  text : List Char
  /-- The characters behind them. -/
  rest : List Char
  /-- The state it ends in. -/
  state : Nat
  /-- The outcome there, the first that does not go on; at the end of the input it may be any. -/
  outcome : Outcome
  deriving DecidableEq, Repr

namespace Walk

/-- Why an attempt on this way stops. -/
def stop (walk : Walk) : Stop :=
  match walk.outcome, walk.rest with
  | .acceptEnd, _ => .endOfInput
  | .accept lexeme, _ => .matched lexeme
  | _, [] => .unexpectedEnd
  | _, _ :: _ => .invalid

/-- What an attempt on this way consumes: a character that is rejected is consumed too. -/
def consumed (walk : Walk) : List Char :=
  match walk.outcome, walk.rest with
  | .reject, c :: _ => walk.text ++ [c]
  | _, _ => walk.text

/-- What an attempt on this way leaves. -/
def left (walk : Walk) : List Char :=
  match walk.outcome, walk.rest with
  | .reject, _ :: rest => rest
  | _, rest => rest

/-- The way with a character in front that the automaton goes on with. -/
def extend (c : Char) (walk : Walk) : Walk := { walk with text := c :: walk.text }

/-- A character in front changes nothing about where the way stops. -/
theorem stop_extend (c : Char) (walk : Walk) : (walk.extend c).stop = walk.stop := rfl

/-- Nor does it change what is left. -/
theorem left_extend (c : Char) (walk : Walk) : (walk.extend c).left = walk.left := rfl

/-- A character in front is consumed first. -/
theorem consumed_extend (c : Char) (walk : Walk) :
    (walk.extend c).consumed = c :: walk.consumed := by
  obtain ⟨text, rest, state, outcome⟩ := walk
  cases outcome <;> cases rest <;> rfl

/-- Characters in front change what is consumed, but neither where the way stops nor what is left. -/
theorem foldr_extend (text : List Char) (walk : Walk) :
    (text.foldr extend walk).stop = walk.stop ∧
      (text.foldr extend walk).consumed = text ++ walk.consumed ∧
      (text.foldr extend walk).left = walk.left := by
  induction text with
  | nil => exact ⟨rfl, rfl, rfl⟩
  | cons c text ih =>
    obtain ⟨hstop, hconsumed, hleft⟩ := ih
    refine ⟨hstop, ?_, hleft⟩
    rw [List.foldr_cons, consumed_extend, hconsumed, List.cons_append]

/-- An attempt accepts the end of the input where the last outcome does. -/
theorem stop_eq_endOfInput_iff {walk : Walk} :
    walk.stop = .endOfInput ↔ walk.outcome = .acceptEnd := by
  obtain ⟨text, rest, state, outcome⟩ := walk
  cases outcome <;> cases rest <;> simp [stop]

/-- An attempt matches the lexeme that the last outcome accepts. -/
theorem stop_eq_matched_iff {walk : Walk} {lexeme : Nat} :
    walk.stop = .matched lexeme ↔ walk.outcome = .accept lexeme := by
  obtain ⟨text, rest, state, outcome⟩ := walk
  cases outcome <;> cases rest <;> simp [stop]

/-- An attempt leaves a token unfinished only where no character follows. -/
theorem rest_of_stop_unexpectedEnd {walk : Walk} (h : walk.stop = .unexpectedEnd) :
    walk.rest = [] := by
  obtain ⟨text, rest, state, outcome⟩ := walk
  cases outcome <;> cases rest <;> simp [stop] at h ⊢

/-- An attempt consumes and leaves together what its way reads and leaves. -/
theorem consumed_append_left (walk : Walk) : walk.consumed ++ walk.left = walk.text ++ walk.rest := by
  obtain ⟨text, rest, state, outcome⟩ := walk
  cases outcome <;> cases rest <;> first | rfl | exact List.append_assoc _ _ _

end Walk

namespace Automaton

/-- Follow the automaton from a state over some characters, up to the first outcome that does not
go on. -/
def walk (automaton : Automaton) (state : Nat) : List Char → Walk
  | [] => ⟨[], [], state, automaton.outcome state (automaton.classes.classOf none)⟩
  | c :: rest =>
    match automaton.outcome state (automaton.classes.classOf (some c)) with
    | .goto next => (automaton.walk next rest).extend c
    | outcome => ⟨[], c :: rest, state, outcome⟩

/-- Reading a text from one state, the automaton goes on with every character and comes to
another. -/
inductive Reads (automaton : Automaton) : Nat → List Char → Nat → Prop where
  /-- Without a character it stays where it is. -/
  | nil (state : Nat) : Reads automaton state [] state
  /-- It goes on with the first character, and then with all others. -/
  | cons {state next last : Nat} {c : Char} {text : List Char}
      (hgoto : automaton.outcome state (automaton.classes.classOf (some c)) = .goto next)
      (hreads : Reads automaton next text last) : Reads automaton state (c :: text) last

variable {automaton : Automaton}

/-- Where the automaton goes on, the walk continues from the next state. -/
theorem walk_cons_goto {state next : Nat} {c : Char}
    (h : automaton.outcome state (automaton.classes.classOf (some c)) = .goto next)
    (rest : List Char) : automaton.walk state (c :: rest) = (automaton.walk next rest).extend c := by
  rw [walk, h]

/-- Where it does not, the walk ends before it has read anything. -/
theorem walk_cons_stay {state : Nat} {c : Char}
    (h : ∀ next, automaton.outcome state (automaton.classes.classOf (some c)) ≠ .goto next)
    (rest : List Char) :
    automaton.walk state (c :: rest) =
      ⟨[], c :: rest, state, automaton.outcome state (automaton.classes.classOf (some c))⟩ := by
  rw [walk]
  split
  next next hgoto => exact absurd hgoto (h next)
  next => rfl

/-- In particular it ends at an outcome that names no state to go on in. -/
theorem walk_cons_of_outcome_eq {state : Nat} {c : Char} {outcome : Outcome}
    (h : automaton.outcome state (automaton.classes.classOf (some c)) = outcome)
    (hstop : ∀ next, outcome ≠ .goto next) (rest : List Char) :
    automaton.walk state (c :: rest) = ⟨[], c :: rest, state, outcome⟩ := by
  subst h
  exact walk_cons_stay hstop rest

/-- A walk loses no character. -/
theorem text_append_rest_walk (state : Nat) (chars : List Char) :
    (automaton.walk state chars).text ++ (automaton.walk state chars).rest = chars := by
  fun_induction automaton.walk state chars with
  | case1 => rfl
  | case2 _ c rest next hgoto ih => exact congrArg (List.cons c) ih
  | case3 => rfl

/-- A walk does not stop at an outcome that goes on while characters are left. -/
theorem rest_walk_of_goto {state next : Nat} {chars : List Char}
    (h : (automaton.walk state chars).outcome = .goto next) :
    (automaton.walk state chars).rest = [] := by
  fun_induction automaton.walk state chars with
  | case1 => rfl
  | case2 _ _ _ _ _ ih => exact ih h
  | case3 _ _ _ hstay => exact absurd h (hstay next)

/-- A walk ends with the outcome that its last state has for what follows. -/
theorem outcome_walk (state : Nat) (chars : List Char) :
    (automaton.walk state chars).outcome =
      automaton.outcome (automaton.walk state chars).state
        (automaton.classes.classOf (automaton.walk state chars).rest.head?) := by
  fun_induction automaton.walk state chars with
  | case1 => rfl
  | case2 _ _ _ _ _ ih => exact ih
  | case3 => rfl

/-- The text of a walk is a path from its first state to its last. -/
theorem reads_walk (state : Nat) (chars : List Char) :
    automaton.Reads state (automaton.walk state chars).text (automaton.walk state chars).state := by
  fun_induction automaton.walk state chars with
  | case1 => exact .nil _
  | case2 _ _ _ _ hgoto ih => exact .cons hgoto ih
  | case3 => exact .nil _

/-- Along a path the automaton walks to its end, and on from there. -/
theorem walk_append_of_reads {state last : Nat} {text : List Char}
    (h : automaton.Reads state text last) (rest : List Char) :
    automaton.walk state (text ++ rest) = text.foldr Walk.extend (automaton.walk last rest) := by
  induction h with
  | nil => rfl
  | cons hgoto _ ih => rw [List.cons_append, walk_cons_goto hgoto, ih, List.foldr_cons]

/-- So the walk reads the path and what is read behind it. -/
theorem walk_append_eq_of_reads {first last state : Nat} {front text rest back : List Char}
    {outcome : Outcome} (h : automaton.Reads first front last)
    (hwalk : automaton.walk last rest = ⟨text, back, state, outcome⟩) :
    automaton.walk first (front ++ rest) = ⟨front ++ text, back, state, outcome⟩ := by
  induction h with
  | nil => exact hwalk
  | cons hgoto _ ih =>
    rw [List.cons_append, walk_cons_goto hgoto, ih hwalk]
    rfl

/-- Two paths behind each other are a path. -/
theorem Reads.append {first middle last : Nat} {front back : List Char}
    (hfront : automaton.Reads first front middle) (hback : automaton.Reads middle back last) :
    automaton.Reads first (front ++ back) last := by
  induction hfront with
  | nil => exact hback
  | cons hgoto _ ih => exact .cons hgoto (ih hback)

/-- Where the automaton does not go on with the lookahead, the walk ends before it starts. -/
theorem walk_unconsumed_stay {cursor : Cursor} {state : Nat} {outcome : Outcome}
    (h : cursor.Primed)
    (hout : automaton.outcome state (automaton.classes.classOf cursor.lookahead) = outcome)
    (hstay : ∀ next, outcome = .goto next → cursor.lookahead = none) :
    automaton.walk state cursor.unconsumed = ⟨[], cursor.unconsumed, state, outcome⟩ := by
  cases hlook : cursor.lookahead with
  | none =>
    rw [Cursor.unconsumed_of_lookahead_none h hlook, walk, ← hlook, hout]
  | some c =>
    rw [hlook] at hout hstay
    have hne : ∀ next, automaton.outcome state (automaton.classes.classOf (some c)) ≠ .goto next :=
      fun next hgoto => Option.some_ne_none c (hstay next (hout.symm.trans hgoto))
    rw [Cursor.unconsumed_of_lookahead_some hlook, walk_cons_stay hne, hout]

/-- An attempt stops for the reason that the walk over the remaining characters gives, and leaves
the cursor past what that walk consumes. -/
theorem run_spec {cursor : Cursor} (h : cursor.Primed) (state : Nat) :
    (automaton.run state cursor).stop = (automaton.walk state cursor.unconsumed).stop ∧
      (automaton.run state cursor).cursor =
        cursor.past (automaton.walk state cursor.unconsumed).consumed
          (automaton.walk state cursor.unconsumed).left := by
  fun_induction Automaton.run automaton state cursor with
  | case1 state cursor cls outcome lookup next c hlook hgoto rest ih =>
    have hadvance := Cursor.advance_eq_past hlook
    have hprimed : cursor.advance.Primed := by
      rw [hadvance]
      exact Cursor.primed_past _ _ _
    have hunread : cursor.advance.unconsumed = cursor.source.unread := by
      rw [hadvance, Cursor.unconsumed_past]
    have hwalk : automaton.walk state cursor.unconsumed =
        (automaton.walk next cursor.source.unread).extend c := by
      have hgoto' : automaton.outcome state (automaton.classes.classOf (some c)) = .goto next := by
        rw [← hlook]
        exact hgoto
      rw [Cursor.unconsumed_of_lookahead_some hlook, walk_cons_goto hgoto']
    obtain ⟨hstop, hcursor⟩ := ih hprimed
    rw [hunread] at hstop hcursor
    rw [hwalk, Walk.stop_extend, Walk.consumed_extend, Walk.left_extend]
    refine ⟨hstop, hcursor.trans ?_⟩
    rw [hadvance, Cursor.past_past]
    rfl
  | case2 state cursor cls outcome lookup c hlook hreject =>
    have hwalk := walk_unconsumed_stay h hreject (fun _ hne => by cases hne)
    rw [hwalk, Cursor.unconsumed_of_lookahead_some hlook]
    exact ⟨rfl, Cursor.advance_eq_past hlook⟩
  | case3 state cursor cls outcome lookup next hlook hgoto =>
    have hwalk := walk_unconsumed_stay h hgoto (fun _ _ => hlook)
    have hnil := Cursor.unconsumed_of_lookahead_none h hlook
    rw [hwalk, hnil]
    refine ⟨rfl, (Cursor.past_nil h).symm.trans ?_⟩
    rw [hnil]
    rfl
  | case4 state cursor cls outcome lookup hlook hreject =>
    have hwalk := walk_unconsumed_stay h hreject (fun _ _ => hlook)
    have hnil := Cursor.unconsumed_of_lookahead_none h hlook
    rw [hwalk, hnil]
    refine ⟨rfl, (Cursor.past_nil h).symm.trans ?_⟩
    rw [hnil]
    rfl
  | case5 state cursor cls outcome lookup haccept =>
    have hwalk := walk_unconsumed_stay h haccept (fun _ hne => by cases hne)
    rw [hwalk]
    exact ⟨rfl, (Cursor.past_nil h).symm⟩
  | case6 state cursor cls outcome lookup lexeme haccept =>
    have hwalk := walk_unconsumed_stay h haccept (fun _ hne => by cases hne)
    rw [hwalk]
    exact ⟨rfl, (Cursor.past_nil h).symm⟩

end Automaton

namespace Table

variable {table : Table} {state : Nat}

/-- Every mode has its start state. -/
theorem lt_stateCount_of_mode {mode : Nat} (hmode : mode < table.modeCount) :
    mode < table.stateCount := Nat.lt_of_lt_of_le hmode table.legal.modeCount_le

/-- The outcome for the next character, or for the end, is legal in every state. -/
theorem legalOutcome_classOf (hstate : state < table.stateCount) (next : Option Char) :
    table.LegalOutcome state (table.classes.classOf next)
      (table.outcome state (table.classes.classOf next)) :=
  table.legal.legalOutcome state hstate _ (table.classOf_lt next)

/-- A path never leaves the table. -/
theorem lt_stateCount_of_reads {text : List Char} {last : Nat}
    (h : table.Reads state text last) (hstate : state < table.stateCount) :
    last < table.stateCount := by
  induction h with
  | nil => exact hstate
  | @cons _ _ _ c _ hgoto _ ih =>
    have hlegal := legalOutcome_classOf hstate (some c)
    rw [hgoto] at hlegal
    exact ih hlegal.1

/-- The outcome with which a walk ends is legal in its cell. -/
theorem legalOutcome_walk (hstate : state < table.stateCount) (chars : List Char) :
    table.LegalOutcome (table.walk state chars).state
      (table.classes.classOf (table.walk state chars).rest.head?)
      (table.walk state chars).outcome := by
  have hlast := lt_stateCount_of_reads (Automaton.reads_walk state chars) hstate
  rw [Automaton.outcome_walk]
  exact legalOutcome_classOf hlast _

/-- A walk never ends with an outcome that goes on: it could do so only at the end of the input, on
which no state goes on. -/
theorem outcome_walk_ne_goto (hstate : state < table.stateCount) (chars : List Char)
    (next : Nat) : (table.walk state chars).outcome ≠ .goto next := by
  intro hgoto
  have hlegal := legalOutcome_walk hstate chars
  rw [hgoto, Automaton.rest_walk_of_goto hgoto] at hlegal
  exact hlegal.2 (CharClasses.classOf_none _)

/-- A lexeme that an attempt matches has a rule of its own, not that of the end of input. -/
theorem isEnd_lexemeRule_of_stop (hstate : state < table.stateCount) {chars : List Char}
    {lexeme : Nat} (h : (table.walk state chars).stop = .matched lexeme) :
    (table.lexemeRule lexeme).isEnd = false := by
  have hlegal := legalOutcome_walk hstate chars
  rw [Walk.stop_eq_matched_iff.mp h] at hlegal
  have hlexeme : lexeme < table.lexemeRules.size := hlegal.1
  have hne := (table.legal.lexemeRules_lt _ (Array.getElem_mem hlexeme)).2
  rw [Automaton.lexemeRule, Automaton.lexemeRule?, Array.getElem?_eq_getElem hlexeme,
    Option.getD_some, RuleId.isEnd]
  exact beq_false_of_ne hne

end Table

end ScanSchema
