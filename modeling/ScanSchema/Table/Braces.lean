import ScanSchema.Table.Basic

/-!
# The table for embedded action code

Code between braces inside a grammar is opaque, but its end has to be found. The table defined here
hands out opening and closing braces and drops all other text. Literals in single or double quotes
are matched as wholes, so that a brace inside them does not count; a backslash in a literal takes
the next character with it, and a literal may not run past the end of its line.
-/

namespace ScanSchema

/-- The class of an ASCII character in action code: braces, quotes, backslash and newline have
classes of their own, and NUL is taken for the end of input. -/
def braceClass (code : Nat) : UInt8 :=
  if code = 0 then 0
  else if code = '\x7b'.toNat then 2
  else if code = '\''.toNat then 3
  else if code = '\\'.toNat then 4
  else if code = '\n'.toNat then 5
  else if code = '"'.toNat then 6
  else if code = '\x7d'.toNat then 7
  else 1

/-- The outcomes in action code. State 0 starts the mode, 1 is inside plain text, 2 and 5 follow a
brace, 3 and 4 are inside a literal in single and double quotes, 6 and 9 follow a closing quote, 7
and 8 follow a backslash. -/
def braceTransitions : List (List Int32) := [
  [-2, 1, 2, 3, 1, 1, 4, 5],
  [-6, 1, -6, -6, 1, 1, -6, -6],
  [-3, -3, -3, -3, -3, -3, -3, -3],
  [-1, 3, 3, 6, 7, -1, 3, 3],
  [-1, 4, 4, 4, 8, -1, 9, 4],
  [-7, -7, -7, -7, -7, -7, -7, -7],
  [-4, -4, -4, -4, -4, -4, -4, -4],
  [-1, 3, 3, 3, 3, -1, 3, 3],
  [-1, 4, 4, 4, 4, -1, 4, 4],
  [-5, -5, -5, -5, -5, -5, -5, -5]]

/-- The definition of the table for action code. -/
def Definition.braces : Definition where
  charClasses := (List.range 128).map braceClass
  catchAll := 1
  classCount := 8
  modes := 1
  transitions := braceTransitions
  lexemeRules := [1, 2, 2, 2, 3]
  rules := [⟨"eoi", .emit⟩, ⟨"lcurly", .emit⟩, ⟨"_skip", .skip⟩, ⟨"rcurly", .emit⟩]

/-- The table of braces has no defect. -/
theorem Definition.defect?_braces : Definition.braces.defect? = none := by decide +kernel

/-- The table for action code. -/
def Table.braces : Table :=
  ⟨Definition.braces.flatten, Definition.braces.flatten_legal Definition.defect?_braces⟩

end ScanSchema
