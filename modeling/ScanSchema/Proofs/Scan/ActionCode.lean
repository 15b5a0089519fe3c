import Mathlib.Data.List.Nodup
import ScanSchema.Proofs.Scan.Filtering

/-!
# Braces in action code

What the table for action code is for is said here without a table. Code is read from its start, one
piece after the other: a brace, a literal in quotes, or any other character. A literal goes on up to
its own quote, a backslash in it takes the next character with it, and a newline breaks it. `Code`
says what is to be found in some code: a token for each brace, an error for each broken literal, and
one for a literal that the end of the input leaves open. For every source without NUL this is what a
scanner finds. The automaton goes with a literal character by character, so a lemma about its states
in a literal is proved by the induction of `Body`, and other text is one lexeme however long it is.
-/

namespace ScanSchema.ActionCode

/-- The two kinds of literals. -/
inductive Quote where
  /-- A literal in single quotes. -/
  | single
  /-- A literal in double quotes. -/
  | double

/-- The character that opens and closes a literal. -/
def Quote.char : Quote → Char
  | .single => '\''
  | .double => '"'

/-- A text inside a literal, in front of its end. -/
inductive Body (quote : Quote) : List Char → Prop where
  /-- There may be no text. -/
  | nil : Body quote []
  /-- A character stands for itself. -/
  | plain {c : Char} {text : List Char} (hquote : c ≠ quote.char) (hbackslash : c ≠ '\\')
    (hnewline : c ≠ '\n') (h : Body quote text) : Body quote (c :: text)
  /-- A backslash takes the next character with it. -/
  | escape {c : Char} {text : List Char} (hnewline : c ≠ '\n') (h : Body quote text) :
    Body quote ('\\' :: c :: text)

/-- A text inside a literal up to some place, at which a backslash may wait for the next
character. -/
inductive Unclosed (quote : Quote) : List Char → Prop where
  /-- No backslash waits. -/
  | body {text : List Char} (h : Body quote text) : Unclosed quote text
  /-- A backslash waits. -/
  | backslash {text : List Char} (h : Body quote text) : Unclosed quote (text ++ ['\\'])

/-- The name of the rule for a brace. -/
def braceName? : Char → Option String
  | '\x7b' => some "lcurly"
  | '\x7d' => some "rcurly"
  | _ => none

/-- What is to be found in code that begins at a location. -/
inductive Code : Location → List Char → List Finding → Prop where
  /-- The code ends. -/
  | done (location : Location) : Code location [] []
  /-- A character that is neither a brace nor a quote means nothing. -/
  | other {location : Location} {c : Char} {rest : List Char} {found : List Finding}
    (hbrace : braceName? c = none) (hquote : ∀ quote : Quote, c ≠ quote.char)
    (h : Code (location.after [c]) rest found) : Code location (c :: rest) found
  /-- A brace is a token. -/
  | brace {location : Location} {c : Char} {name : String} {rule : RuleId} {rest : List Char}
    {found : List Finding} (hname : braceName? c = some name)
    (hrule : Table.braces.ruleByName? name = some rule)
    (h : Code (location.after [c]) rest found) :
    Code location (c :: rest)
      (.token ⟨rule, String.ofList [c], location.offset, location.line⟩ :: found)
  /-- A literal with its closing quote means nothing. -/
  | literal {location : Location} {quote : Quote} {text rest : List Char} {found : List Finding}
    (htext : Body quote text)
    (h : Code (location.after (quote.char :: text ++ [quote.char])) rest found) :
    Code location (quote.char :: text ++ [quote.char] ++ rest) found
  /-- A newline inside a literal is an error about the literal through the newline. -/
  | broken {location : Location} {quote : Quote} {text rest : List Char} {found : List Finding}
    (htext : Unclosed quote text)
    (h : Code (location.after (quote.char :: text ++ ['\n'])) rest found) :
    Code location (quote.char :: text ++ ['\n'] ++ rest)
      (.error (.invalidAt location (quote.char :: text ++ ['\n'])) :: found)
  /-- The end inside a literal is an error about its start. -/
  | unfinished {location : Location} {quote : Quote} {text : List Char}
    (htext : Unclosed quote text) :
    Code location (quote.char :: text) [.error (.unexpectedEndAt location)]

section Table

variable {c : Char} {quote : Quote} {location : Location} {text chars rest : List Char}

/-- The class of a character in the table. -/
abbrev classOf (c : Char) : Nat := Table.braces.classes.classOf (some c)

/-- The characters with classes of their own. -/
def special : List Char := ['\x00', '\x7b', '\'', '\\', '\n', '"', '\x7d']

/-- All other characters are in class 1. -/
theorem classOf_of_not_mem (h : c ∉ special) : classOf c = 1 := by
  by_cases hcode : c.toNat < 128
  · have hlisted : ∀ code < 128, Char.ofNat code ∈ special ∨ classOf (Char.ofNat code) = 1 := by
      decide +kernel
    have hchar := hlisted c.toNat hcode
    rw [Char.ofNat_toNat] at hchar
    exact hchar.resolve_left h
  · have hsize : Table.braces.classes.map.size ≤ c.toNat := Nat.not_lt.mp hcode
    rw [classOf, CharClasses.classOf, CharClasses.classOfCode, Array.getElem?_eq_none hsize]
    rfl

/-- A character with a class of its own is the only one in it. -/
theorem eq_of_classOf_eq {other : Char} (hother : other ∈ special)
    (h : classOf c = classOf other) : c = other := by
  have hnodup : (special.map classOf).Nodup := by decide +kernel
  have hone : 1 ∉ special.map classOf := by decide +kernel
  by_cases hc : c ∈ special
  · exact List.inj_on_of_nodup_map hnodup hc hother h
  · rw [classOf_of_not_mem hc] at h
    exact absurd (h ▸ List.mem_map_of_mem hother) hone

/-- So a character that is none of some special ones is in none of their classes. -/
theorem classOf_not_mem_map {others : List Char} (hspecial : others ⊆ special)
    (h : c ∉ others) : classOf c ∉ others.map classOf := by
  intro hmem
  obtain ⟨other, hother, heq⟩ := List.mem_map.mp hmem
  exact h (eq_of_classOf_eq (hspecial hother) heq.symm ▸ hother)

/-- The states of the automaton in which literals of one kind are matched. -/
structure States where
  /-- The state behind the opening quote of a literal, and behind each character of it. -/
  inside : Nat
  /-- The state in which a backslash waits for the next character. -/
  escaped : Nat
  /-- The state behind a literal. -/
  closed : Nat
  /-- The lexeme of a literal. -/
  lexeme : Nat

/-- These states for each kind. -/
def Quote.states : Quote → States
  | .single => ⟨3, 7, 6, 1⟩
  | .double => ⟨4, 8, 9, 2⟩

/-- How the states for a kind of literals are connected. -/
structure Quote.Connected (quote : Quote) (states : States) : Prop where
  /-- A quote opens a literal. -/
  opens : Table.braces.outcome 0 (classOf quote.char) = .goto states.inside
  /-- It closes it. -/
  closes : Table.braces.outcome states.inside (classOf quote.char) = .goto states.closed
  /-- A backslash waits for the next character. -/
  waits : Table.braces.outcome states.inside (classOf '\\') = .goto states.escaped
  /-- Every character but newline and NUL stays in the literal then. -/
  takes : ∀ cls < 8, cls ∉ ['\n', '\x00'].map classOf →
    Table.braces.outcome states.escaped cls = .goto states.inside
  /-- Otherwise every character but these, the backslash and the quote does. -/
  stays : ∀ cls < 8, cls ∉ [quote.char, '\\', '\n', '\x00'].map classOf →
    Table.braces.outcome states.inside cls = .goto states.inside
  /-- Newlines and the end of the input are rejected in a literal. -/
  rejects : ∀ state ∈ [states.inside, states.escaped], ∀ cls ∈ [classOf '\n', 0],
    Table.braces.outcome state cls = .reject
  /-- Behind the closing quote the literal is accepted, whatever follows. -/
  accepts : ∀ cls < 8, Table.braces.outcome states.closed cls = .accept states.lexeme
  /-- Its rule is skipped. -/
  skips : Table.braces.ruleAction (Table.braces.lexemeRule states.lexeme) = .skip

/-- The table has such states for both kinds of literals. -/
theorem connected (quote : Quote) : quote.Connected quote.states := by
  cases quote with
  | single => constructor <;> decide +kernel
  | double => constructor <;> decide +kernel

/-- A text inside a literal is a path from the first state of literals to the same state. -/
theorem Body.reads (h : Body quote text) (hnul : '\x00' ∉ text) :
    Table.braces.Reads quote.states.inside text quote.states.inside := by
  have hconnected := connected quote
  induction h with
  | nil => exact .nil _
  | @plain c text hquote hbackslash hnewline _ ih =>
    have hc : c ≠ '\x00' := (List.ne_of_not_mem_cons hnul).symm
    have hclass : classOf c ∉ [quote.char, '\\', '\n', '\x00'].map classOf :=
      classOf_not_mem_map (by cases quote <;> simp [special, Quote.char])
        (by simp [hquote, hbackslash, hnewline, hc])
    exact .cons (hconnected.stays _ (Table.classOf_lt _ _) hclass)
      (ih (List.not_mem_of_not_mem_cons hnul))
  | @escape c text hnewline _ ih =>
    have htext := List.not_mem_of_not_mem_cons hnul
    have hc : c ≠ '\x00' := (List.ne_of_not_mem_cons htext).symm
    have hclass : classOf c ∉ ['\n', '\x00'].map classOf :=
      classOf_not_mem_map (by simp [special]) (by simp [hnewline, hc])
    exact .cons hconnected.waits (.cons (hconnected.takes _ (Table.classOf_lt _ _) hclass)
      (ih (List.not_mem_of_not_mem_cons htext)))

/-- A literal that is not closed leads to a state that rejects newlines and the end. -/
theorem Unclosed.reads (h : Unclosed quote text) (hnul : '\x00' ∉ text) :
    ∃ state, Table.braces.Reads 0 (quote.char :: text) state ∧
      Table.braces.outcome state (classOf '\n') = .reject ∧
      Table.braces.outcome state 0 = .reject := by
  have hconnected := connected quote
  cases h with
  | body hbody =>
    refine ⟨_, .cons hconnected.opens (hbody.reads hnul), ?_, ?_⟩
    · exact hconnected.rejects _ (by simp) _ (by simp)
    · exact hconnected.rejects _ (by simp) _ (by simp)
  | backslash hbody =>
    have hread := hbody.reads fun hmem => hnul (List.mem_append_left _ hmem)
    refine ⟨_, .cons hconnected.opens (hread.append (.cons hconnected.waits (.nil _))), ?_, ?_⟩
    · exact hconnected.rejects _ (by simp) _ (by simp)
    · exact hconnected.rejects _ (by simp) _ (by simp)

/-- What the table finds in code that begins at a location. -/
abbrev scan (location : Location) (chars : List Char) : List Finding :=
  Table.braces.tokenize (Table.braces.keeper none) ⟨0, Table.braces.modeCount_pos⟩ () location chars

/-- A match of a rule that is skipped means nothing. -/
theorem scan_of_skip {state lexeme : Nat}
    (hwalk : Table.braces.walk 0 chars = ⟨text, rest, state, .accept lexeme⟩)
    (hskip : Table.braces.ruleAction (Table.braces.lexemeRule lexeme) = .skip) :
    scan location chars = scan (location.after text) rest := by
  have hdropped : (Table.braces.keeper none ()
      (Table.braces.tokenAt location lexeme text)).1 = false :=
    congrArg (fun action => action == RuleAction.emit) hskip
  rw [scan, Table.tokenize_of_accept hwalk, hdropped]
  rfl

/-- A match of any other rule is a token. -/
theorem scan_of_emit {state lexeme : Nat}
    (hwalk : Table.braces.walk 0 chars = ⟨text, rest, state, .accept lexeme⟩)
    (hemit : Table.braces.ruleAction (Table.braces.lexemeRule lexeme) = .emit) :
    scan location chars =
      .token (Table.braces.tokenAt location lexeme text) :: scan (location.after text) rest := by
  have hkept : (Table.braces.keeper none ()
      (Table.braces.tokenAt location lexeme text)).1 = true :=
    congrArg (fun action => action == RuleAction.emit) hemit
  rw [scan, Table.tokenize_of_accept hwalk, hkept]
  rfl

/-- A character that is rejected is reported with the text in front of it. -/
theorem scan_of_reject {state : Nat}
    (hwalk : Table.braces.walk 0 chars = ⟨text, c :: rest, state, .reject⟩) :
    scan location chars = .error (.invalidAt location (text ++ [c])) ::
      scan (location.after (text ++ [c])) rest := Table.tokenize_of_reject hwalk

/-- A walk in a state that accepts a lexeme whatever follows. -/
theorem walk_of_accepts {state lexeme : Nat}
    (h : ∀ cls < 8, Table.braces.outcome state cls = .accept lexeme) (rest : List Char) :
    Table.braces.walk state rest = ⟨[], rest, state, .accept lexeme⟩ := by
  cases rest with
  | nil => rw [Automaton.walk, h _ (Table.classOf_lt _ _)]
  | cons c rest =>
    exact Automaton.walk_cons_of_outcome_eq (h _ (Table.classOf_lt _ _))
      (fun _ => Outcome.noConfusion) rest

/-- Behind a character of text, all text that follows belongs to the same lexeme, however long it
is. That text would be dropped if it stood alone, too. -/
theorem scan_text (location : Location) (chars : List Char) :
    ∃ text rest, Table.braces.walk 1 chars = ⟨text, rest, 1, .accept 3⟩ ∧
      scan location chars = scan (location.after text) rest := by
  have hcells : ∀ cls < 8, Table.braces.outcome 1 cls = .goto 1 ∧
      Table.braces.outcome 0 cls = .goto 1 ∨ Table.braces.outcome 1 cls = .accept 3 := by
    decide +kernel
  induction chars with
  | nil => exact ⟨[], [], by decide +kernel, rfl⟩
  | cons c rest ih =>
    obtain ⟨text, left, hwalk, -⟩ := ih
    rcases hcells (classOf c) (Table.classOf_lt _ _) with ⟨hgoes, hstarts⟩ | haccept
    · have hgoesOn : Table.braces.walk 1 (c :: rest) = ⟨c :: text, left, 1, .accept 3⟩ := by
        rw [Automaton.walk_cons_goto hgoes, hwalk]
        rfl
      have hfirst : Table.braces.walk 0 (c :: rest) = ⟨c :: text, left, 1, .accept 3⟩ := by
        rw [Automaton.walk_cons_goto hstarts, hwalk]
        rfl
      exact ⟨c :: text, left, hgoesOn, scan_of_skip hfirst (by decide +kernel)⟩
    · refine ⟨[], c :: rest, ?_, rfl⟩
      exact Automaton.walk_cons_of_outcome_eq haccept (fun _ => Outcome.noConfusion) rest

/-- Nothing is found in a character of text. -/
theorem scan_cons_of_text (h : Table.braces.outcome 0 (classOf c) = .goto 1) :
    scan location (c :: rest) = scan (location.after [c]) rest := by
  obtain ⟨text, left, hwalk, hscan⟩ := scan_text (location.after [c]) rest
  have hfirst : Table.braces.walk 0 (c :: rest) = ⟨c :: text, left, 1, .accept 3⟩ := by
    rw [Automaton.walk_cons_goto h, hwalk]
    rfl
  rw [hscan, ← Location.after_append]
  exact scan_of_skip hfirst (by decide +kernel)

/-- That is every character but braces, quotes and NUL. -/
theorem outcome_of_other (hbrace : braceName? c = none) (hquote : ∀ quote : Quote, c ≠ quote.char)
    (hnul : c ≠ '\x00') : Table.braces.outcome 0 (classOf c) = .goto 1 := by
  have hcells : ∀ cls < 8, cls ∉ ['\x7b', '\x7d', '\'', '"', '\x00'].map classOf →
      Table.braces.outcome 0 cls = .goto 1 := by decide +kernel
  refine hcells _ (Table.classOf_lt _ _) (classOf_not_mem_map (by simp [special]) fun hmem => ?_)
  simp only [List.mem_cons, List.not_mem_nil, or_false] at hmem
  rcases hmem with rfl | rfl | rfl | rfl | rfl
  · cases hbrace
  · cases hbrace
  · exact hquote .single rfl
  · exact hquote .double rfl
  · exact hnul rfl

/-- A lexeme of one character, of a rule that is not skipped, is a token. -/
theorem scan_cons_of_token {state lexeme : Nat}
    (hgoto : Table.braces.outcome 0 (classOf c) = .goto state)
    (haccepts : ∀ cls < 8, Table.braces.outcome state cls = .accept lexeme)
    (hemit : Table.braces.ruleAction (Table.braces.lexemeRule lexeme) = .emit) :
    scan location (c :: rest) =
      .token (Table.braces.tokenAt location lexeme [c]) :: scan (location.after [c]) rest := by
  have hwalk : Table.braces.walk 0 (c :: rest) = ⟨[c], rest, state, .accept lexeme⟩ := by
    rw [Automaton.walk_cons_goto hgoto, walk_of_accepts haccepts]
    rfl
  exact scan_of_emit hwalk hemit

/-- A brace is a token of the rule with its name. -/
theorem scan_cons_of_brace {name : String} {rule : RuleId} (hname : braceName? c = some name)
    (hrule : Table.braces.ruleByName? name = some rule) :
    scan location (c :: rest) =
      .token ⟨rule, String.ofList [c], location.offset, location.line⟩ ::
        scan (location.after [c]) rest := by
  unfold braceName? at hname
  split at hname
  · cases hname
    have hlcurly : Table.braces.ruleByName? "lcurly" = some (Table.braces.lexemeRule 0) := by
      decide +kernel
    cases hlcurly.symm.trans hrule
    have hgoto : Table.braces.outcome 0 (classOf '\x7b') = .goto 2 := by decide +kernel
    have haccepts : ∀ cls < 8, Table.braces.outcome 2 cls = .accept 0 := by decide +kernel
    exact scan_cons_of_token hgoto haccepts (by decide +kernel)
  · cases hname
    have hrcurly : Table.braces.ruleByName? "rcurly" = some (Table.braces.lexemeRule 4) := by
      decide +kernel
    cases hrcurly.symm.trans hrule
    have hgoto : Table.braces.outcome 0 (classOf '\x7d') = .goto 5 := by decide +kernel
    have haccepts : ∀ cls < 8, Table.braces.outcome 5 cls = .accept 4 := by decide +kernel
    exact scan_cons_of_token hgoto haccepts (by decide +kernel)
  · cases hname

/-- A walk over a literal with its closing quote accepts the literal. -/
theorem Body.walk_closed (h : Body quote text) (hnul : '\x00' ∉ text) (rest : List Char) :
    Table.braces.walk 0 (quote.char :: text ++ [quote.char] ++ rest) =
      ⟨quote.char :: text ++ [quote.char], rest, quote.states.closed,
        .accept quote.states.lexeme⟩ := by
  have hconnected := connected quote
  have hreads : Table.braces.Reads 0 (quote.char :: text ++ [quote.char]) quote.states.closed :=
    .cons hconnected.opens ((h.reads hnul).append (.cons hconnected.closes (.nil _)))
  have hwalk := Automaton.walk_append_eq_of_reads hreads (walk_of_accepts hconnected.accepts rest)
  rwa [List.append_nil] at hwalk

/-- A walk over a literal that is not closed is rejected where it meets a newline or the end. -/
theorem Unclosed.walk_eq (h : Unclosed quote text) (hnul : '\x00' ∉ text) (rest : List Char)
    (hrest : ∀ c ∈ rest.head?, c = '\n') :
    ∃ state, Table.braces.walk 0 (quote.char :: text ++ rest) =
      ⟨quote.char :: text, rest, state, .reject⟩ := by
  obtain ⟨state, hreads, hnewline, hend⟩ := h.reads hnul
  have hstays : Table.braces.walk state rest = ⟨[], rest, state, .reject⟩ := by
    cases rest with
    | nil => rw [Automaton.walk, CharClasses.classOf_none, hend]
    | cons c rest =>
      obtain rfl := hrest c rfl
      exact Automaton.walk_cons_of_outcome_eq hnewline (fun _ => Outcome.noConfusion) rest
  have hwalk := Automaton.walk_append_eq_of_reads hreads hstays
  rw [List.append_nil] at hwalk
  exact ⟨state, hwalk⟩

/-- In code without NUL the table finds what is to be found. -/
theorem Code.scan_eq {found : List Finding} (h : Code location chars found)
    (hnul : '\x00' ∉ chars) : scan location chars = found := by
  induction h with
  | done location =>
    have hwalk : Table.braces.walk 0 [] = ⟨[], [], 0, .acceptEnd⟩ := by decide +kernel
    exact Table.tokenize_of_acceptEnd hwalk
  | other hbrace hquote _ ih =>
    have hc := (List.ne_of_not_mem_cons hnul).symm
    rw [scan_cons_of_text (outcome_of_other hbrace hquote hc)]
    exact ih (List.not_mem_of_not_mem_cons hnul)
  | brace hname hrule _ ih =>
    rw [scan_cons_of_brace hname hrule, ih (List.not_mem_of_not_mem_cons hnul)]
  | @literal location quote text rest found htext _ ih =>
    have hliteral : '\x00' ∉ text := fun hmem => hnul (by simp [hmem])
    have hrest : '\x00' ∉ rest := fun hmem => hnul (List.mem_append_right _ hmem)
    rw [scan_of_skip (htext.walk_closed hliteral rest) (connected quote).skips]
    exact ih hrest
  | @broken location quote text rest found htext _ ih =>
    have hliteral : '\x00' ∉ text := fun hmem => hnul (by simp [hmem])
    have hrest : '\x00' ∉ rest := fun hmem => hnul (List.mem_append_right _ hmem)
    obtain ⟨state, hwalk⟩ := htext.walk_eq hliteral ('\n' :: rest) fun c hc => by cases hc; rfl
    rw [← List.append_cons, scan_of_reject hwalk, ih hrest]
  | @unfinished location quote text htext =>
    have hliteral := List.not_mem_of_not_mem_cons hnul
    obtain ⟨state, hwalk⟩ := htext.walk_eq hliteral [] fun c hc => nomatch hc
    rw [List.append_nil] at hwalk
    exact Table.tokenize_of_unexpectedEnd hwalk

end Table

section Totality

variable {quote : Quote} {text front : List Char}

/-- How a literal goes on behind its opening quote. -/
inductive Ends (quote : Quote) : List Char → Prop where
  /-- It is closed. -/
  | closed {text : List Char} (h : Body quote text) (rest : List Char) :
    Ends quote (text ++ [quote.char] ++ rest)
  /-- A newline breaks it. -/
  | broken {text : List Char} (h : Unclosed quote text) (rest : List Char) :
    Ends quote (text ++ ['\n'] ++ rest)
  /-- The input ends. -/
  | unfinished {text : List Char} (h : Unclosed quote text) : Ends quote text

/-- Text that may stand in front of other text in a literal may stand in front of an open end. -/
theorem Unclosed.prepend (hfront : ∀ text, Body quote text → Body quote (front ++ text))
    (h : Unclosed quote text) : Unclosed quote (front ++ text) := by
  cases h with
  | body hbody => exact .body (hfront _ hbody)
  | backslash hbody =>
    rw [← List.append_assoc]
    exact .backslash (hfront _ hbody)

/-- It does not change how the literal ends. -/
theorem Ends.prepend (hfront : ∀ text, Body quote text → Body quote (front ++ text))
    (h : Ends quote text) : Ends quote (front ++ text) := by
  cases h with
  | closed hbody rest =>
    rw [← List.append_assoc, ← List.append_assoc]
    exact .closed (hfront _ hbody) rest
  | broken hopen rest =>
    rw [← List.append_assoc, ← List.append_assoc]
    exact .broken (hopen.prepend hfront) rest
  | unfinished hopen => exact .unfinished (hopen.prepend hfront)

/-- Every literal is closed, broken or unfinished. -/
theorem ends (quote : Quote) (text : List Char) : Ends quote text := by
  match text with
  | [] => exact .unfinished (.body .nil)
  | c :: rest =>
    by_cases hquote : c = quote.char
    · subst hquote
      exact .closed .nil rest
    by_cases hnewline : c = '\n'
    · subst hnewline
      exact .broken (.body .nil) rest
    by_cases hbackslash : c = '\\'
    · subst hbackslash
      match rest with
      | [] => exact .unfinished (.backslash .nil)
      | d :: rest =>
        by_cases hescaped : d = '\n'
        · subst hescaped
          exact .broken (.backslash .nil) rest
        · have hfront : ∀ text, Body quote text → Body quote (['\\', d] ++ text) :=
            fun _ => .escape hescaped
          exact (ends quote rest).prepend hfront
    · have hfront : ∀ text, Body quote text → Body quote ([c] ++ text) :=
        fun _ => .plain hquote hbackslash hnewline
      exact (ends quote rest).prepend hfront
termination_by text.length

/-- There are rules with the names of braces. -/
theorem exists_ruleByName? {c : Char} {name : String} (h : braceName? c = some name) :
    ∃ rule, Table.braces.ruleByName? name = some rule := by
  unfold braceName? at h
  split at h
  · cases h
    exact ⟨⟨1⟩, by decide +kernel⟩
  · cases h
    exact ⟨⟨3⟩, by decide +kernel⟩
  · cases h

/-- All code can be read. -/
theorem exists_code (location : Location) (chars : List Char) :
    ∃ found, Code location chars found := by
  match chars with
  | [] => exact ⟨[], .done location⟩
  | c :: rest =>
    by_cases hquote : ∃ quote : Quote, c = quote.char
    · obtain ⟨quote, rfl⟩ := hquote
      cases ends quote rest with
      | @closed text htext after =>
        obtain ⟨found, hfound⟩ :=
          exists_code (location.after (quote.char :: text ++ [quote.char])) after
        exact ⟨found, .literal htext hfound⟩
      | @broken text htext after =>
        obtain ⟨found, hfound⟩ :=
          exists_code (location.after (quote.char :: text ++ ['\n'])) after
        exact ⟨_, .broken htext hfound⟩
      | unfinished htext => exact ⟨_, .unfinished htext⟩
    · obtain ⟨found, hfound⟩ := exists_code (location.after [c]) rest
      cases hname : braceName? c with
      | none => exact ⟨found, .other hname (fun quote heq => hquote ⟨quote, heq⟩) hfound⟩
      | some name =>
        obtain ⟨rule, hrule⟩ := exists_ruleByName? hname
        exact ⟨_, .brace hname hrule hfound⟩
termination_by chars.length

end Totality

/-- Scanning action code without NUL finds what is to be found in it. There is exactly one way to
read the code, and the scanner reports and hands out what belongs to it, in order: its tokens are
the braces outside of literals, and its errors are about the literals that are broken or
unfinished. -/
theorem drain_eq_code (source : List Char) (hnul : '\x00' ∉ source) :
    ∃ found, Code .start source found ∧ (∀ other, Code .start source other → other = found) ∧
      let scanner := Scanner.start Table.braces source ()
      scanner.findings = found ∧ scanner.drain.value = found.filterMap Finding.token? ∧
        Event.errors scanner.drain.events = found.filterMap Finding.error? := by
  let scanner := Scanner.start Table.braces source ()
  have hstands : scanner.Stands (Table.braces.keeper none) ⟨0, Table.braces.modeCount_pos⟩ ()
      .start source := Scanner.stands_startIn ⟨0, Table.braces.modeCount_pos⟩ source none ()
  have hfindings : scanner.findings = scan .start source := Scanner.findings_of_stands hstands
  obtain ⟨found, hfound⟩ := exists_code .start source
  have hscan : scanner.findings = found := hfindings.trans (hfound.scan_eq hnul)
  obtain ⟨htokens, herrors⟩ := Scanner.filterMap_findings scanner
  rw [hscan] at htokens herrors
  refine ⟨found, hfound, fun other hother => ?_, hscan, htokens.symm, herrors.symm⟩
  rw [← hscan, hfindings, hother.scan_eq hnul]

/-- A brace, a closed literal with a brace and a quote in it, a letter of two bytes, a literal that
is broken, another brace, and a literal that is unfinished. -/
theorem drain_eq_code_literals :
    let source := ['\x7b', '\'', '\x7d', '\\', '\'', '\'', 'é', '"', '\x7b', '\n', '\x7d', '"']
    let scanner := Scanner.start Table.braces source ()
    '\x00' ∉ source ∧
      scanner.drain.value = [⟨⟨1⟩, "\x7b", 0, 1⟩, ⟨⟨3⟩, "\x7d", 11, 2⟩] ∧
      Event.errors scanner.drain.events =
        [⟨8, 1, .invalidToken 2 "\"\x7b\n"⟩, ⟨12, 2, .unexpectedEnd⟩] ∧
      ∃ found, Code .start source found ∧ (∀ other, Code .start source other → other = found) ∧
        scanner.findings = found ∧ scanner.drain.value = found.filterMap Finding.token? ∧
        Event.errors scanner.drain.events = found.filterMap Finding.error? := by
  intro source scanner
  have hnul : '\x00' ∉ source := by decide
  exact ⟨hnul, by decide +kernel, by decide +kernel, drain_eq_code source hnul⟩

end ScanSchema.ActionCode
