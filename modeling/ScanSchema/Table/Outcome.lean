/-!
# Outcomes of a transition

A cell of the transition matrix holds a signed 32-bit code. Codes from zero up name the next state;
`-1` rejects, `-2` accepts the end of input, and `-3 - k` accepts lexeme `k`. `Outcome` is what such
a code means, `decode` and `encode` lead from one to the other.
-/

namespace ScanSchema

/-- What the automaton does on a character of some class in some state. -/
inductive Outcome where
  /-- Take the character and go on in `state`. -/
  | goto (state : Nat)
  /-- No lexeme can be completed. -/
  | reject
  /-- The input may end here. -/
  | acceptEnd
  /-- The text read so far is lexeme `lexeme`. -/
  | accept (lexeme : Nat)
  deriving DecidableEq, Repr, Inhabited

namespace Outcome

/-- The meaning of a cell's code. -/
def decode (code : Int32) : Outcome :=
  let n := code.toInt
  if 0 ≤ n then .goto n.toNat
  else if n = -1 then .reject
  else if n = -2 then .acceptEnd
  else .accept (-3 - n).toNat

/-- The code of an outcome. State numbers below `2 ^ 31` and lexemes up to `2 ^ 31 - 3` have one
of their own. -/
def encode : Outcome → Int32
  | .goto state => Int32.ofInt state
  | .reject => -1
  | .acceptEnd => -2
  | .accept lexeme => Int32.ofInt (-3 - (lexeme : Int))

/-- The outcome as traces print it. -/
def describe : Outcome → String
  | .goto state => s!"Continue({state})"
  | .reject => "Reject"
  | .acceptEnd => "AcceptEoi"
  | .accept lexeme => s!"Accept({lexeme})"

end Outcome

end ScanSchema
