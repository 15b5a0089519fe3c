import ScanSchema.Log
import ScanSchema.Scan.Attempt
import ScanSchema.Scan.Token

/-!
# What happens during a scan

A scanner answers with tokens, and besides lists what happened on the way as events: look-ups,
errors, tokens shown to the hook, tokens dropped and changes of mode. The errors of a scan, the
tokens its hook saw and its log are read off that list.
-/

namespace ScanSchema

/-- Something that happened during a scan. -/
inductive Event where
  /-- The automaton was asked for an outcome. -/
  | looked (lookup : Lookup)
  /-- An error was found. -/
  | failed (error : LexicalError)
  /-- The hook was asked about a token. -/
  | shown (token : Token)
  /-- A token was dropped. -/
  | dropped (token : Token)
  /-- The lexer mode was set. -/
  | modeSet (before after : Nat)
  deriving DecidableEq, Repr, Inhabited

namespace Event

/-- The error that an event reports. -/
def error? : Event → Option LexicalError
  | .failed error => some error
  | _ => none

/-- The token that an event showed to the hook. -/
def shown? : Event → Option Token
  | .shown token => some token
  | _ => none

/-- The look-up that an event records. -/
def lookup? : Event → Option Lookup
  | .looked lookup => some lookup
  | _ => none

/-- What the log says about an event. -/
def record? : Event → Option LogRecord
  | .looked lookup =>
    some ⟨.trace, s!"state {lookup.state} class {lookup.cls} -> " ++ lookup.outcome.describe⟩
  | .failed error =>
    match error.fault with
    | .unexpectedEnd => none
    | .invalidToken _ text =>
      some ⟨.debug, "invalid token " ++ Text.quoted text ++ s!" at {error.line}:{error.offset}"⟩
  | .shown _ => none
  | .dropped token => some ⟨.debug, "skipped " ++ token.toText⟩
  | .modeSet before after => some ⟨.debug, s!"scanner mode {before} -> {after}"⟩

/-- The errors among some events. -/
def errors (events : List Event) : List LexicalError := events.filterMap error?

/-- The tokens that the hook was shown. -/
def shownTokens (events : List Event) : List Token := events.filterMap shown?

/-- The look-ups among some events. -/
def lookups (events : List Event) : List Lookup := events.filterMap lookup?

/-- The log of some events. -/
def log (events : List Event) : List LogRecord := events.filterMap record?

end Event

end ScanSchema
