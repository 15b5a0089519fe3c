import ScanSchema.Json.Number

/-!
# Passing over a value

A value that nobody asked for still has to be well formed. It is passed over without a limit on its
depth, and without a look at the size of its numbers.
-/

namespace ScanSchema.Json

mutual

/-- Pass over one value. -/
def skipValue (text : List Char) : Except Failure (Shorter text) :=
  match next text with
  | .done => failAt .endInValue []
  | .char c rest =>
    if c = 'n' then do return rest.andMaybe (← readWord "ull".toList rest)
    else if c = 't' then do return rest.andMaybe (← readWord "rue".toList rest)
    else if c = 'f' then do return rest.andMaybe (← readWord "alse".toList rest)
    else if c = '-' || c.isDigit then do return rest.andMaybe (← skipNumber c rest)
    else if c = '"' then do return rest.trans (← skipString rest)
    else if c = '[' then do return rest.trans (← skipFirstElement rest)
    else if c = '\x7b' then do return rest.trans (← skipFirstMember rest)
    else failBehind .expectedValue (c :: rest)
termination_by (text.length, 0)
decreasing_by all_goals exact Prod.Lex.left _ _ rest.property

/-- Pass over what follows an opening bracket. -/
def skipFirstElement (text : List Char) : Except Failure (Shorter text) :=
  match next text with
  | .done => failAt .endInArray []
  | .char c rest =>
    if c = ']' then .ok rest
    else do
      let value ← skipValue text
      return value.trans (← skipElements value)
termination_by (text.length, 1)
decreasing_by
  · exact Prod.Lex.right _ (Nat.lt_succ_self 0)
  · exact Prod.Lex.left _ _ value.property

/-- Pass over what follows an element of an array. -/
def skipElements (text : List Char) : Except Failure (Shorter text) :=
  match next text with
  | .done => failAt .endInArray []
  | .char c rest =>
    if c = ']' then .ok rest
    else if c = ',' then do
      let value ← skipValue rest
      let left := rest.trans value
      return left.trans (← skipElements left)
    else failBehind .expectedArrayCommaOrEnd (c :: rest)
termination_by (text.length, 1)
decreasing_by
  · exact Prod.Lex.left _ _ rest.property
  · exact Prod.Lex.left _ _ (rest.trans value).property

/-- Pass over what follows an opening brace. -/
def skipFirstMember (text : List Char) : Except Failure (Shorter text) :=
  match next text with
  | .done => failAt .endInObject []
  | .char c rest =>
    if c = '\x7d' then .ok rest
    else do
      let member ← skipMember text
      return member.trans (← skipMembers member)
termination_by (text.length, 2)
decreasing_by
  · exact Prod.Lex.right _ (Nat.lt_succ_self 1)
  · exact Prod.Lex.left _ _ member.property

/-- Pass over what follows a member of an object. -/
def skipMembers (text : List Char) : Except Failure (Shorter text) :=
  match next text with
  | .done => failAt .endInObject []
  | .char c rest =>
    if c = '\x7d' then .ok rest
    else if c = ',' then do
      let member ← skipMember rest
      let left := rest.trans member
      return left.trans (← skipMembers left)
    else failBehind .expectedObjectCommaOrEnd (c :: rest)
termination_by (text.length, 2)
decreasing_by
  · exact Prod.Lex.left _ _ rest.property
  · exact Prod.Lex.left _ _ (rest.trans member).property

/-- Pass over a key, a colon and a value. -/
def skipMember (text : List Char) : Except Failure (Shorter text) :=
  match next text with
  | .done => failAt .endInObject []
  | .char c rest =>
    if c = '"' then do
      let key := rest.trans (← skipString rest)
      match next key with
      | .done => failAt .endInObject []
      | .char d behind =>
        if d = ':' then do
          let left := key.trans behind
          return left.trans (← skipValue left)
        else failBehind .expectedColon (d :: behind)
    else failBehind .keyNotString (c :: rest)
termination_by (text.length, 1)
decreasing_by exact Prod.Lex.left _ _ (key.trans behind).property

end

end ScanSchema.Json
