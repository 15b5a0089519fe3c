/-!
# Kinds of diagnostics

Two kinds come from the scanner, the other five from the unification of fields. Each kind has a
fallback message, a template with one hole for details, and for two of them a hint. The message for
a detail is the template with the detail in its hole.
-/

namespace ScanSchema

/-- What a diagnostic is about. -/
inductive DiagnosticKind where
  /-- The input ended inside a token. -/
  | unexpectedEndOfInput
  /-- Text that no rule matches was dropped. -/
  | invalidToken
  /-- A field repeats a signature of its sequence. -/
  | duplicateSignature
  /-- Alternatives disagree on the order of named fields. -/
  | inconsistentFieldOrder
  /-- Occurrences of a field cannot become one field. -/
  | incompatibleFields
  /-- A type stands in a named and in an unnamed field. -/
  | namedUnnamedCollision
  /-- A type stands in two unnamed fields. -/
  | unnamedTypeCollision
  deriving DecidableEq, Repr, Inhabited

namespace DiagnosticKind

/-- All kinds, in the order in which counts are listed. -/
def all : List DiagnosticKind :=
  [.unexpectedEndOfInput, .invalidToken, .duplicateSignature, .inconsistentFieldOrder,
    .incompatibleFields, .namedUnnamedCollision, .unnamedTypeCollision]

/-- The name of a kind. -/
def name : DiagnosticKind → String
  | .unexpectedEndOfInput => "UnexpectedEndOfInput"
  | .invalidToken => "InvalidToken"
  | .duplicateSignature => "DuplicateSignature"
  | .inconsistentFieldOrder => "InconsistentFieldOrder"
  | .incompatibleFields => "IncompatibleFields"
  | .namedUnnamedCollision => "NamedUnnamedCollision"
  | .unnamedTypeCollision => "UnnamedTypeCollision"

/-- The kind of a given name. -/
def ofName? (text : String) : Option DiagnosticKind := all.find? fun kind => kind.name == text

/-- Whether the scanner reports this kind. -/
def isLexical : DiagnosticKind → Bool
  | .unexpectedEndOfInput | .invalidToken => true
  | _ => false

/-- The hint that goes with every diagnostic of the kind. -/
def defaultHint : DiagnosticKind → Option String
  | .inconsistentFieldOrder =>
    some "named fields must occur in the same order in all productions"
  | .unnamedTypeCollision => some "give one of the fields an explicit name to tell them apart"
  | _ => none

/-- The message when there is no detail to tell. -/
def fallbackMessage : DiagnosticKind → String
  | .unexpectedEndOfInput => "unexpected end of input reached"
  | .invalidToken => "invalid token"
  | .duplicateSignature => "two fields with the same signature"
  | .inconsistentFieldOrder => "inconsistent order of named fields"
  | .incompatibleFields => "cannot merge fields"
  | .namedUnnamedCollision => "type occurs in both named and unnamed fields"
  | .unnamedTypeCollision => "two unnamed fields share the same type"

/-- The template of messages with a detail; a pair of braces marks the hole. -/
def template : DiagnosticKind → String
  | .invalidToken => "invalid token \x7b\x7d, skipped"
  | .duplicateSignature => "two fields with the same signature `\x7b\x7d`"
  | .incompatibleFields => "cannot merge \x7b\x7d"
  | .namedUnnamedCollision => "`\x7b\x7d` occurs in both named and unnamed fields"
  | .unnamedTypeCollision => "two unnamed fields share the same type `\x7b\x7d`"
  | kind => kind.fallbackMessage ++ ": \x7b\x7d"

/-- Put `detail` into every hole of a template. The detail itself is not searched for holes. -/
def fill (detail : List Char) : List Char → List Char
  | '\x7b' :: '\x7d' :: rest => detail ++ fill detail rest
  | c :: rest => c :: fill detail rest
  | [] => []

/-- The message of a kind, with a detail if there is one. -/
def message (kind : DiagnosticKind) : Option String → String
  | none => kind.fallbackMessage
  | some detail => String.ofList (fill detail.toList kind.template.toList)

end DiagnosticKind

end ScanSchema
