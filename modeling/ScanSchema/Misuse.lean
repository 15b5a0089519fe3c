import ScanSchema.Text.Quoted

/-!
# Misuse of an operation

Some operations are promised arguments in range. A call that breaks the promise is answered with a
`Misuse`, which says what was wrong, and leaves everything as it was.
-/

namespace ScanSchema

/-- The ways in which a call can break what an operation is promised. -/
inductive Misuse where
  /-- A lexer mode that the table does not have. -/
  | modeOutOfRange (mode count : Nat)
  /-- A field without any type. -/
  | fieldWithoutTypes
  /-- A list made of something else than one mergeable field; `phrase` is its text. -/
  | listOfPhrase (phrase : String)
  /-- A look-up past the end of a sequence. -/
  | indexOutOfBounds (length index : Nat)
  /-- A span whose first end lies behind its second. -/
  | reversedSpan
  /-- A text cut at byte `index`, inside a character that begins at byte `start`. -/
  | insideCharacter (index start : Nat) (character : Char)
  deriving DecidableEq, Repr

/-- The wording of each misuse. -/
def Misuse.message : Misuse → String
  | .modeOutOfRange mode count => s!"mode {mode} out of range ({count} modes)"
  | .fieldWithoutTypes => "field needs at least one type"
  | .listOfPhrase phrase =>
    "make_list on a phrase that is not a single mergeable field: `" ++ phrase ++ "`"
  | .indexOutOfBounds length index =>
    s!"index out of bounds: the len is {length} but the index is {index}"
  | .reversedSpan => "assertion failed: start.raw <= end.raw"
  | .insideCharacter index start character =>
    s!"end byte index {index} is not a char boundary; it is inside '" ++
      String.ofList (Text.quoteChar character) ++
      s!"' (bytes {start}..{start + character.utf8Size} of string)"

end ScanSchema
