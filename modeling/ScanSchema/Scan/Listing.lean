import ScanSchema.Scan.Drain

/-!
# Token listings

A listing shows the tokens of a source, one line each, and what is wrong with the source. It starts
in a mode of the caller's choice, and can show the tokens of skipped rules too.
-/

namespace ScanSchema

/-- A mode that a table does not have. -/
structure UnknownMode where
  /-- The mode asked for. -/
  mode : Nat
  /-- How many modes the table has. -/
  count : Nat
  deriving DecidableEq, Repr

/-- The wording for an unknown mode. -/
def UnknownMode.message (error : UnknownMode) : String :=
  s!"mode {error.mode} out of range: table has {error.count} modes"

/-- The tokens of a source, and what is wrong with it. -/
structure Listing where
  /-- A line for each token. -/
  lines : List String
  /-- What is wrong with the source. -/
  diagnostics : Diagnostics
  deriving DecidableEq, Repr, Inhabited

namespace Listing

/-- The line of a listing about one token. -/
def line (table : Table) (token : Token) : String :=
  s!"{token.line}:{token.offset} " ++ table.ruleName token.rule ++ " " ++ Text.quoted token.text

/-- The hook that keeps every token. -/
def keepAll : Hook Unit := fun _ _ => (true, ())

/-- List the tokens of `source`, starting in `mode`; with `all` also those of skipped rules. -/
def ofSource (table : Table) (source : String) (mode : Nat) (all : Bool) :
    Except UnknownMode Listing :=
  match (Scanner.start table source.toList ()).setMode mode with
  | .error _ => .error ⟨mode, table.modeCount⟩
  | .ok ready =>
    let scanner := if all then ready.scanner.withHook keepAll () else ready.scanner
    let drained := scanner.drain
    .ok
      { lines := drained.value.map (line table)
        diagnostics := ⟨(Event.errors drained.events).map LexicalError.toDiagnostic⟩ }

end Listing

end ScanSchema
