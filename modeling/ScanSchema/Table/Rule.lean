/-!
# Lexeme rules

A table declares its rules in a list; a rule is known by its place there. Rule 0 stands for the end
of input. Rule numbers are 16-bit words.
-/

namespace ScanSchema

/-- The number of a declared rule. -/
structure RuleId where
  /-- Place of the rule in the table's list. -/
  number : UInt16
  deriving DecidableEq, Repr, Inhabited

namespace RuleId

/-- The rule of the end of input. -/
def endOfInput : RuleId := ⟨0⟩

/-- Whether this is the rule of the end of input. -/
def isEnd (rule : RuleId) : Bool := rule == endOfInput

/-- Place of the rule in the table's list, as a natural number. -/
def index (rule : RuleId) : Nat := rule.number.toNat

/-- The written form, such as `R7`. -/
def toText (rule : RuleId) : String := "R" ++ toString rule.index

end RuleId

/-- What the scanner does with a match of a rule when no hook decides. -/
inductive RuleAction where
  /-- Hand the token out. -/
  | emit
  /-- Drop the token, as for blanks and comments. -/
  | skip
  deriving DecidableEq, Repr, Inhabited

/-- A declared rule. -/
structure Rule where
  /-- Name of the rule. Names need not differ. -/
  name : String
  /-- What happens to its matches. -/
  action : RuleAction := .emit
  deriving DecidableEq, Repr, Inhabited

/-- The most rules that a table may declare, as rule numbers have 16 bits. -/
def maxRules : Nat := 0x10000

end ScanSchema
