import ScanSchema.Proofs.Scan.Transcript

/-!
# Look-ups stay in the table

The matrix of a table is one array, so a class past the end of its row would read the next row, and
the look-ups are written so that a cell that does not exist rejects. Neither ever happens: the states
that an attempt reaches exist, the classes of characters do, and so do the lexemes that are accepted
and their rules. `Lookup.InRange` says this of one look-up, `Table.inRange_lookups_run` of an attempt,
and `Transcript.inRange_play` of every call in every state that a scanner can be brought to.
-/

namespace ScanSchema

/-- A rule that the table declares, other than that of the end of input. -/
def Table.Declares (table : Table) (rule : RuleId) : Prop :=
  rule.index < table.rules.size ∧ rule ≠ .endOfInput

/-- A look-up that hits the table: the state and the class exist and their cell holds the outcome,
and a lexeme that is accepted there exists and has a rule of its own. -/
structure Lookup.InRange (table : Table) (lookup : Lookup) : Prop where
  /-- The state exists. -/
  state_lt : lookup.state < table.stateCount
  /-- The class exists. -/
  cls_lt : lookup.cls < table.classCount
  /-- The cell exists, and the outcome is what it says. -/
  found : table.lookUp lookup.state lookup.cls = .ok lookup.outcome
  /-- The outcome is one that the cell may hold. -/
  legal : table.LegalOutcome lookup.state lookup.cls lookup.outcome
  /-- A lexeme that is accepted exists, and the table declares its rule. -/
  accepted : ∀ lexeme, lookup.outcome = .accept lexeme →
    ∃ rule, table.lookUpLexeme lexeme = .ok rule ∧ table.Declares rule

namespace Table

variable {table : Table} {state cls lexeme : Nat}

/-- Every state has a cell for every class. -/
theorem cellIndex_lt (hstate : state < table.stateCount) (hcls : cls < table.classCount) :
    table.cellIndex state cls < table.cells.size := by
  rw [table.legal.cells_size, Automaton.cellIndex]
  calc state * table.classCount + cls
    _ < state * table.classCount + table.classCount := Nat.add_lt_add_left hcls _
    _ = (state + 1) * table.classCount := (Nat.succ_mul _ _).symm
    _ ≤ table.stateCount * table.classCount := Nat.mul_le_mul_right _ hstate

/-- So the look-up of a state and a class that exist succeeds. -/
theorem lookUp_eq_ok (hstate : state < table.stateCount) (hcls : cls < table.classCount) :
    table.lookUp state cls = .ok (table.outcome state cls) := by
  have hindex := cellIndex_lt hstate hcls
  have hcell : table.outcome? state cls =
      some (Outcome.decode table.cells[table.cellIndex state cls]) := by
    rw [Automaton.outcome?, Array.getElem?_eq_getElem hindex, Option.map_some]
  rw [Automaton.lookUp, Automaton.outcome, hcell]
  rfl

/-- A lexeme that exists has a declared rule. -/
theorem lookUpLexeme_eq_ok (h : lexeme < table.lexemeRules.size) :
    table.lookUpLexeme lexeme = .ok (table.lexemeRule lexeme) ∧
      table.Declares (table.lexemeRule lexeme) := by
  have hrule : table.lexemeRule? lexeme = some table.lexemeRules[lexeme] :=
    Array.getElem?_eq_getElem h
  rw [Automaton.lookUpLexeme, Automaton.lexemeRule, hrule]
  exact ⟨rfl, table.legal.lexemeRules_lt _ (Array.getElem_mem h)⟩

/-- What an attempt looks up for the next character, or for the end, hits the table in every state
that exists. -/
theorem inRange_lookup (hstate : state < table.stateCount) (next : Option Char) :
    (⟨state, table.classes.classOf next,
      table.outcome state (table.classes.classOf next)⟩ : Lookup).InRange table where
  state_lt := hstate
  cls_lt := table.classOf_lt next
  found := lookUp_eq_ok hstate (table.classOf_lt next)
  legal := legalOutcome_classOf hstate next
  accepted lexeme haccept := by
    have hlegal := legalOutcome_classOf hstate next
    dsimp only at haccept
    rw [haccept] at hlegal
    exact ⟨_, lookUpLexeme_eq_ok hlegal.1⟩

/-- All look-ups of an attempt that starts in a state that exists hit the table. -/
theorem inRange_lookups_run (hstate : state < table.stateCount) (cursor : Cursor) :
    ∀ lookup ∈ (table.run state cursor).lookups, lookup.InRange table := by
  have hsingle : ∀ (state : Nat) (cursor : Cursor), state < table.stateCount →
      ∀ lookup ∈ [(⟨state, table.classes.classOf cursor.lookahead,
        table.outcome state (table.classes.classOf cursor.lookahead)⟩ : Lookup)],
        lookup.InRange table := by
    intro state cursor hstate lookup hlookup
    rw [List.mem_singleton.mp hlookup]
    exact inRange_lookup hstate cursor.lookahead
  fun_induction Automaton.run table.toAutomaton state cursor with
  | case1 state cursor cls outcome lookup next c hlook hgoto rest ih =>
    have hnext : next < table.stateCount := by
      have hlegal := legalOutcome_classOf hstate cursor.lookahead
      have hout : table.outcome state (table.classes.classOf cursor.lookahead) = .goto next := hgoto
      rw [hout] at hlegal
      exact hlegal.1
    intro looked hlooked
    rcases List.mem_cons.mp hlooked with rfl | hrest
    · exact inRange_lookup hstate cursor.lookahead
    · exact ih hnext looked hrest
  | case2 state cursor => exact hsingle state cursor hstate
  | case3 state cursor => exact hsingle state cursor hstate
  | case4 state cursor => exact hsingle state cursor hstate
  | case5 state cursor => exact hsingle state cursor hstate
  | case6 state cursor => exact hsingle state cursor hstate

/-- The lexeme that an attempt matches is accepted by one of its look-ups. -/
theorem exists_lookup_of_matched {automaton : Automaton} {cursor : Cursor}
    (h : (automaton.run state cursor).stop = .matched lexeme) :
    ∃ lookup ∈ (automaton.run state cursor).lookups, lookup.outcome = .accept lexeme := by
  fun_induction automaton.run state cursor with
  | case1 _ _ _ _ _ _ _ _ _ _ ih =>
    obtain ⟨lookup, hlookup, haccept⟩ := ih h
    exact ⟨lookup, List.mem_cons_of_mem _ hlookup, haccept⟩
  | case6 _ _ _ _ lookup _ haccept =>
    cases h
    exact ⟨lookup, List.mem_singleton_self _, haccept⟩
  | _ => cases h

/-- So the table declares the rule of every lexeme that is matched. -/
theorem declares_of_matched (hstate : state < table.stateCount) {cursor : Cursor}
    (h : (table.run state cursor).stop = .matched lexeme) :
    table.Declares (table.lexemeRule lexeme) := by
  obtain ⟨lookup, hlookup, haccept⟩ := exists_lookup_of_matched h
  have hlegal := (inRange_lookups_run hstate cursor lookup hlookup).legal
  rw [haccept] at hlegal
  exact (lookUpLexeme_eq_ok hlegal.1).2

end Table

/-- What an event tells of is in the table: what was looked up, the rules of tokens, the modes. -/
def Event.InRange (table : Table) : Event → Prop
  | .looked lookup => lookup.InRange table
  | .failed _ => True
  | .shown token => table.Declares token.rule
  | .dropped token => table.Declares token.rule
  | .modeSet before after => before < table.modeCount ∧ after < table.modeCount

/-- What a call has brought is in the table: all that happened on the way, and the rule of the token
that is handed out. -/
structure Turn.InRange {table : Table} {σ : Type} (turn : Turn table σ Answer) : Prop where
  /-- Every event is. -/
  events : ∀ event ∈ turn.events, event.InRange table
  /-- So is the token. -/
  handed : ∀ token, turn.value.handed? = some token → table.Declares token.rule

namespace Scanner

variable {table : Table} {σ : Type}

/-- Every look-up of an attempt hits the table. -/
theorem inRange_looked (scanner : Scanner table σ) :
    ∀ event ∈ scanner.looked, event.InRange table := by
  intro event hevent
  obtain ⟨lookup, hlookup, rfl⟩ := List.mem_map.mp hevent
  exact Table.inRange_lookups_run (Table.lt_stateCount_of_mode scanner.mode_lt) _ lookup hlookup

/-- The token of an attempt has a declared rule. -/
theorem declares_candidate {scanner : Scanner table σ} {lexeme : Nat}
    (hstop : scanner.attempt.stop = .matched lexeme) :
    table.Declares (scanner.candidate lexeme).rule :=
  Table.declares_of_matched (Table.lt_stateCount_of_mode scanner.mode_lt) hstop

/-- The hook is asked about a token of a rule in the table. -/
theorem inRange_judged {scanner : Scanner table σ} {lexeme : Nat}
    (hstop : scanner.attempt.stop = .matched lexeme) :
    ∀ event ∈ (scanner.judged lexeme).events, event.InRange table := by
  intro event hevent
  unfold judged judge at hevent
  split at hevent
  next => exact absurd hevent List.not_mem_nil
  next =>
    rw [List.mem_singleton.mp hevent]
    exact declares_candidate hstop

/-- All that happens in a round is in the table, and its token has a declared rule unless it is that
of the end. -/
theorem inRange_round (scanner : Scanner table σ) :
    (∀ event ∈ scanner.round.events, event.InRange table) ∧
      ∀ token, scanner.round.value = some token →
        token = scanner.endToken ∨ table.Declares token.rule := by
  have hlooked := scanner.inRange_looked
  have hrounds := scanner.rounds_round
  generalize scanner.round = turn at hrounds ⊢
  cases hrounds with
  | endOfInput => exact ⟨hlooked, fun token htoken => .inl (Option.some.inj htoken).symm⟩
  | unexpectedEnd =>
    refine ⟨?_, fun token htoken => .inl (Option.some.inj htoken).symm⟩
    exact List.forall_mem_append.mpr ⟨hlooked, List.forall_mem_singleton.mpr trivial⟩
  | invalid =>
    refine ⟨?_, fun token htoken => by cases htoken⟩
    exact List.forall_mem_append.mpr ⟨hlooked, List.forall_mem_singleton.mpr trivial⟩
  | kept lexeme hstop =>
    refine ⟨List.forall_mem_append.mpr ⟨hlooked, inRange_judged hstop⟩, fun token htoken => ?_⟩
    rw [← Option.some.inj htoken]
    exact .inr (declares_candidate hstop)
  | dropped lexeme hstop =>
    refine ⟨?_, fun token htoken => by cases htoken⟩
    exact List.forall_mem_append.mpr
      ⟨List.forall_mem_append.mpr ⟨hlooked, inRange_judged hstop⟩,
        List.forall_mem_singleton.mpr (declares_candidate hstop)⟩

/-- All that happens while a token is scanned is in the table, and the token has a declared rule
unless it stands for the end. -/
theorem inRange_nextToken (scanner : Scanner table σ) :
    (∀ event ∈ scanner.nextToken.events, event.InRange table) ∧
      (scanner.nextToken.value.isEnd = true ∨ table.Declares scanner.nextToken.value.rule) := by
  refine nextToken_induct (motive := fun _ turn =>
    (∀ event ∈ turn.events, event.InRange table) ∧
      (turn.value.isEnd = true ∨ table.Declares turn.value.rule))
    ?exhausted ?answered ?continued scanner
  case exhausted =>
    intro scanner _
    exact ⟨fun event hevent => absurd hevent List.not_mem_nil, .inl (Token.isEnd_endOfInput _ _)⟩
  case answered =>
    intro scanner token _ hround
    obtain ⟨hevents, htoken⟩ := scanner.inRange_round
    refine ⟨hevents, ?_⟩
    rcases htoken token hround with rfl | hdeclared
    · exact .inl (Token.isEnd_endOfInput _ _)
    · exact .inr hdeclared
  case continued =>
    intro scanner _ _ ih
    obtain ⟨hevents, htoken⟩ := ih
    exact ⟨List.forall_mem_append.mpr ⟨scanner.inRange_round.1, hevents⟩, htoken⟩

/-- A call that asks for a token brings nothing from outside the table. -/
theorem inRange_of_reports {scanner : Scanner table σ} {answer : Answer}
    (h : answer.Reports scanner.nextToken.value) :
    Turn.InRange { scanner.nextToken with value := answer } where
  events := scanner.inRange_nextToken.1
  handed token htoken := by
    have hhanded : scanner.nextToken.value.unlessEnd = some token := h.handed.symm.trans htoken
    rw [Token.unlessEnd] at hhanded
    split at hhanded
    · cases hhanded
    next hend =>
      rw [← Option.some.inj hhanded]
      exact scanner.inRange_nextToken.2.resolve_left hend

/-- A mode that the table has is set, and only the mode changes. -/
theorem setMode_of_lt (scanner : Scanner table σ) {mode : Nat} (h : mode < table.modeCount) :
    scanner.setMode mode =
      .ok ⟨(), [.modeSet scanner.cursor.mode mode],
        { scanner with cursor := { scanner.cursor with mode }, mode_lt := h }⟩ := dif_pos h

/-- Any other mode is refused. -/
theorem setMode_of_le (scanner : Scanner table σ) {mode : Nat} (h : table.modeCount ≤ mode) :
    scanner.setMode mode = .error (.modeOutOfRange mode table.modeCount) :=
  dif_neg (Nat.not_lt.mpr h)

/-- A call that sets a mode, or is refused, brings nothing from outside the table. -/
theorem inRange_attempted_setMode (scanner : Scanner table σ) (mode : Nat) :
    (scanner.attempted (scanner.setMode mode)).InRange := by
  rcases Nat.lt_or_ge mode table.modeCount with h | h
  · rw [scanner.setMode_of_lt h]
    exact ⟨List.forall_mem_singleton.mpr ⟨scanner.mode_lt, h⟩, fun token htoken => by cases htoken⟩
  · rw [scanner.setMode_of_le h]
    exact ⟨fun event hevent => absurd hevent List.not_mem_nil, fun token htoken => by cases htoken⟩

/-- So does a call that puts back a mode and a position, or is refused. -/
theorem inRange_attempted_restore (scanner : Scanner table σ) (point : Checkpoint) :
    (scanner.attempted (scanner.restore point)).InRange := by
  have hset := scanner.inRange_attempted_setMode point.mode
  rw [restore]
  cases hmode : scanner.setMode point.mode with
  | error misuse =>
    rw [hmode] at hset
    exact hset
  | ok turn =>
    rw [hmode] at hset
    exact ⟨hset.events, hset.handed⟩

/-- No call brings anything from outside the table. -/
theorem inRange_perform (scanner : Scanner table σ) (operation : Operation σ) :
    (scanner.perform operation).InRange := by
  have hquiet : ∀ (answer : Answer) (after : Scanner table σ), answer.handed? = none →
      Turn.InRange ⟨answer, [], after⟩ := fun answer after hnone =>
    ⟨fun event hevent => absurd hevent List.not_mem_nil,
      fun token htoken => by cases hnone.symm.trans htoken⟩
  cases operation with
  | nextToken => exact inRange_of_reports ⟨rfl, rfl⟩
  | iterate => exact inRange_of_reports scanner.reports_nextToken?
  | setMode mode => exact scanner.inRange_attempted_setMode mode
  | setLine line => exact hquiet _ _ rfl
  | setOffset offset => exact hquiet _ _ rfl
  | save => exact hquiet _ _ rfl
  | restore point => exact scanner.inRange_attempted_restore point
  | withHook hook memory => exact hquiet _ _ rfl
  | reset input => exact hquiet _ _ rfl

end Scanner

/-- However a scanner was used, its mode exists, and whatever is called next stays in the table. A
mode that does not exist is refused wherever it comes from, and then the scanner is as before. -/
theorem Transcript.inRange_play {σ : Type} (table : Table) (input : List Char) (memory : σ)
    (operations : List (Operation σ)) :
    let scanner := ((start table input memory).play operations).scanner
    scanner.cursor.mode < table.modeCount ∧
      (∀ operation, (scanner.perform operation).InRange) ∧
      ∀ point : Checkpoint, table.modeCount ≤ point.mode →
        let refused : Turn table σ Answer :=
          ⟨.refused (.modeOutOfRange point.mode table.modeCount), [], scanner⟩
        scanner.perform (.setMode point.mode) = refused ∧
          scanner.perform (.restore point) = refused := by
  intro scanner
  refine ⟨scanner.mode_lt, scanner.inRange_perform, fun point hpoint => ?_⟩
  have hrefused := scanner.setMode_of_le hpoint
  refine ⟨?_, ?_⟩
  · exact congrArg scanner.attempted hrefused
  · rw [Scanner.perform, Scanner.restore, hrefused]
    rfl

end ScanSchema
