import ScanSchema.Diagnostic.Kind
import ScanSchema.Text.Span

/-!
# Diagnostics

A diagnostic names a span of the text it is about, carries a message and hints, and has a written
form of one line. Diagnostics are collected in the order in which they were found; a collection
only ever grows at its end.
-/

namespace ScanSchema

/-- One finding about a text. -/
structure Diagnostic where
  /-- What the finding is about. -/
  kind : DiagnosticKind
  /-- The stretch of text to show. -/
  span : Span
  /-- The finished message. -/
  message : String
  /-- Advice for the reader, the kind's own hint first. -/
  hints : List String
  deriving DecidableEq, Repr, Inhabited

namespace Diagnostic

/-- A diagnostic with the kind's fallback message and its own hint. -/
def ofKind (kind : DiagnosticKind) (span : Span) : Diagnostic :=
  { kind, span, message := kind.message none, hints := kind.defaultHint.toList }

/-- Replace the message by the kind's message for a detail. -/
def withDetail (diagnostic : Diagnostic) (detail : String) : Diagnostic :=
  { diagnostic with message := diagnostic.kind.message (some detail) }

/-- Add a hint after those given before. -/
def withHint (diagnostic : Diagnostic) (hint : String) : Diagnostic :=
  { diagnostic with hints := diagnostic.hints ++ [hint] }

/-- The diagnostic on one line. -/
def toLine (diagnostic : Diagnostic) : String :=
  s!"error at {diagnostic.span.start}..{diagnostic.span.stop}: " ++ diagnostic.message ++
    String.join (diagnostic.hints.map fun hint => " (hint: " ++ hint ++ ")")

end Diagnostic

/-- Findings in the order in which they were made. -/
structure Diagnostics where
  /-- The findings. -/
  entries : List Diagnostic := []
  deriving DecidableEq, Repr, Inhabited

namespace Diagnostics

/-- No findings yet. -/
def empty : Diagnostics := {}

instance : EmptyCollection Diagnostics := ⟨empty⟩

/-- Add a finding at the end. -/
def report (diagnostics : Diagnostics) (entry : Diagnostic) : Diagnostics :=
  { entries := diagnostics.entries ++ [entry] }

/-- Add several findings at the end. -/
def reportAll (diagnostics : Diagnostics) (entries : List Diagnostic) : Diagnostics :=
  { entries := diagnostics.entries ++ entries }

/-- Add the findings of another collection at the end, in their order. -/
def extend (diagnostics other : Diagnostics) : Diagnostics :=
  diagnostics.reportAll other.entries

/-- Whether nothing was found. -/
def isEmpty (diagnostics : Diagnostics) : Bool := diagnostics.entries.isEmpty

/-- The number of findings. -/
def size (diagnostics : Diagnostics) : Nat := diagnostics.entries.length

/-- The kinds of the findings, in order. -/
def kinds (diagnostics : Diagnostics) : List DiagnosticKind := diagnostics.entries.map (·.kind)

/-- How many findings are of one kind. -/
def count (diagnostics : Diagnostics) (kind : DiagnosticKind) : Nat :=
  diagnostics.kinds.count kind

/-- All findings, one line each, without a line end after the last. -/
def dump (diagnostics : Diagnostics) : String :=
  "\n".intercalate (diagnostics.entries.map Diagnostic.toLine)

/-- There are no findings at first. -/
theorem entries_empty : (∅ : Diagnostics).entries = [] := rfl

/-- A finding is reported behind the others. -/
theorem entries_report (diagnostics : Diagnostics) (entry : Diagnostic) :
    (diagnostics.report entry).entries = diagnostics.entries ++ [entry] := rfl

/-- Findings are reported behind the others, in their order. -/
theorem entries_reportAll (diagnostics : Diagnostics) (entries : List Diagnostic) :
    (diagnostics.reportAll entries).entries = diagnostics.entries ++ entries := rfl

end Diagnostics

end ScanSchema
