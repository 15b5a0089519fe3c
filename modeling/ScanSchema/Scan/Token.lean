import ScanSchema.Diagnostic.Basic
import ScanSchema.Table.Rule
import ScanSchema.Text.Quoted

/-!
# Tokens and lexical errors

A token is a match of a rule, with its place in the source. A lexical error is either text that no
rule matches, which is dropped, or a token that the end of the input leaves unfinished. Both have a
span of the source and a written form.
-/

namespace ScanSchema

/-- A match of a rule, or the end of the input. -/
structure Token where
  /-- The rule that was matched. -/
  rule : RuleId
  /-- The matched text. -/
  text : String
  /-- Byte offset of the first character. -/
  offset : Nat
  /-- Line of the first character, counted from 1. -/
  line : Nat
  deriving DecidableEq, Repr, Inhabited

namespace Token

/-- The token that stands for the end of the input. -/
def endOfInput (offset line : Nat) : Token := ⟨.endOfInput, "", offset, line⟩

/-- Whether a token stands for the end of the input. -/
def isEnd (token : Token) : Bool := token.rule.isEnd

/-- The span of the token's text, as far as it lies below `Span.offsetLimit`. -/
def span (token : Token) : Span := Span.ofLength token.offset token.text.utf8ByteSize

/-- The written form: rule, quoted text and place. -/
def toText (token : Token) : String :=
  token.rule.toText ++ " " ++ Text.quoted token.text ++ s!" at {token.line}:{token.offset}"

/-- The token for the end of the input stands for it. -/
theorem isEnd_endOfInput (offset line : Nat) : (endOfInput offset line).isEnd = true := rfl

end Token

/-- What went wrong while scanning. -/
inductive LexicalFault where
  /-- The input ended inside a token; the scan is over. -/
  | unexpectedEnd
  /-- No rule matches `text`, which was dropped; scanning goes on in line `line`. -/
  | invalidToken (line : Nat) (text : String)
  deriving DecidableEq, Repr, Inhabited

/-- The wording of a fault. -/
def LexicalFault.message : LexicalFault → String
  | .unexpectedEnd => "unexpected end of input reached"
  | .invalidToken line text => s!"invalid token at line {line}: `" ++ text ++ "`, skipped"

/-- A fault and the place of the token it concerns. -/
structure LexicalError where
  /-- Byte offset at which the token starts. -/
  offset : Nat
  /-- Line in which the token starts. -/
  line : Nat
  /-- What went wrong. -/
  fault : LexicalFault
  deriving DecidableEq, Repr, Inhabited

namespace LexicalError

/-- The dropped text of an error; an unexpected end drops nothing. -/
def text (error : LexicalError) : String :=
  match error.fault with
  | .unexpectedEnd => ""
  | .invalidToken _ text => text

/-- The span of the dropped text, as far as it lies below `Span.offsetLimit`. -/
def span (error : LexicalError) : Span := Span.ofLength error.offset error.text.utf8ByteSize

/-- The wording of the error. -/
def message (error : LexicalError) : String := error.fault.message

/-- The error as a diagnostic about the source. -/
def toDiagnostic (error : LexicalError) : Diagnostic :=
  match error.fault with
  | .unexpectedEnd => .ofKind .unexpectedEndOfInput error.span
  | .invalidToken _ text =>
    (Diagnostic.ofKind .invalidToken error.span).withDetail ("`" ++ text ++ "`")

end LexicalError

end ScanSchema
