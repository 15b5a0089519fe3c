import ScanSchema.Diagnostic.Basic
import ScanSchema.Log
import ScanSchema.Schema.Phrase
import ScanSchema.Schema.Precedence

/-!
# Unification

Two operations make one phrase of several. `concat` joins the phrases of consecutive symbols, and
`merge` unifies the phrases of all alternatives of a nonterminal. Both add what they find wrong to a
collection of diagnostics, at a span that the caller names. When a type of the result could not be
attributed to exactly one field, or when occurrences of a slot do not fit together, the result is
the empty phrase.
-/

namespace ScanSchema

/-- A type that belongs to more than one field. -/
inductive Collision where
  /-- The type stands in a named and in an unnamed field. -/
  | namedUnnamed (type : String)
  /-- The type stands in two unnamed fields. -/
  | unnamedTwice (type : String)
  deriving DecidableEq, Repr

namespace Unify

/-- A repeated signature as a diagnostic. -/
def duplicate (anchor : Span) (field : Field) : Diagnostic :=
  (Diagnostic.ofKind .duplicateSignature anchor).withDetail field.signature.text

/-- Occurrences that do not fit together, as a diagnostic. -/
def incompatible (anchor : Span) (fields : List Field) : Diagnostic :=
  (Diagnostic.ofKind .incompatibleFields anchor).withDetail
    (s!"{fields.length} fields: " ++ ", ".intercalate (fields.map Field.toText))

/-- A collision as a diagnostic. -/
def collision (anchor : Span) : Collision → Diagnostic
  | .namedUnnamed type => (Diagnostic.ofKind .namedUnnamedCollision anchor).withDetail type
  | .unnamedTwice type => (Diagnostic.ofKind .unnamedTypeCollision anchor).withDetail type

/-- Part the fields into the first ones of their signatures and the repeated ones. A signature in
`seen` counts as one that came before. -/
def splitRepeats (seen : List Signature) : List Field → List Field × List Field
  | [] => ([], [])
  | field :: rest =>
    if field.signature ∈ seen then
      let (firsts, repeats) := splitRepeats seen rest
      (firsts, field :: repeats)
    else
      let (firsts, repeats) := splitRepeats (field.signature :: seen) rest
      (field :: firsts, repeats)

/-- The types of all named fields. -/
def namedTypes (fields : List Field) : List String :=
  (fields.filter (·.isNamed)).flatMap (·.types.names)

/-- The types of all unnamed fields, each with the signature of its field. -/
def unnamedTypes (fields : List Field) : List (String × Signature) :=
  (fields.filter (!·.isNamed)).flatMap fun field =>
    field.types.names.map fun type => (type, field.signature)

/-- The first of some types that is in `named`, or that an earlier field owns already. -/
def firstCollision (named : List String) (owners : List (String × Signature)) :
    List (String × Signature) → Option Collision
  | [] => none
  | (type, signature) :: rest =>
    if type ∈ named then some (.namedUnnamed type)
    else
      match owners.lookup type with
      | none => firstCollision named ((type, signature) :: owners) rest
      | some owner =>
        if owner = signature then firstCollision named owners rest
        else some (.unnamedTwice type)

/-- The first type of a phrase that cannot be attributed to exactly one field. -/
def collision? (fields : List Field) : Option Collision :=
  firstCollision (namedTypes fields) [] (unnamedTypes fields)

/-- Let a phrase pass if every type belongs to one field; otherwise report it and drop it. -/
def verify (phrase : Phrase) (anchor : Span) (diagnostics : Diagnostics) : Phrase × Diagnostics :=
  match collision? phrase.fields with
  | none => (phrase, diagnostics)
  | some found => (.empty, diagnostics.report (collision anchor found))

end Unify

open Unify

/-- Join the phrases of consecutive symbols. The fields keep their order; one whose signature came
before is reported and dropped. -/
def concat (phrases : List Phrase) (anchor : Span) (diagnostics : Diagnostics) :
    Phrase × Diagnostics :=
  let (firsts, repeats) := splitRepeats [] (phrases.flatMap (·.fields))
  verify ⟨firsts⟩ anchor (diagnostics.reportAll (repeats.map (duplicate anchor)))

/-- What `merge` answers. -/
structure Merged where
  /-- The unified fields. -/
  phrase : Phrase
  /-- The collection with what was found wrong at its end. -/
  diagnostics : Diagnostics
  /-- What the log says. -/
  log : List LogRecord := []
  deriving DecidableEq, Repr

namespace Unify

/-- The given names of some fields as one group. -/
def addNames (order : Precedence String) (fields : List Field) : Precedence String :=
  (fields.foldl (fun order field => (field.givenName?.map order.add).getD order) order).flush

/-- The given names of all alternatives, a group for each of them. -/
def nameOrder (alternatives : List (List Field)) : Precedence String :=
  alternatives.foldl addNames {}

/-- The occurrences of each slot, in the order of first appearance. -/
def buckets (fields : List Field) : List (List Field) :=
  (fields.map Field.signature).eraseDups.map fun signature =>
    fields.filter fun field => field.signature = signature

/-- One field of the occurrences of a slot. A field that occurs once stays as it is. -/
def unifyBucket? : List Field → Option Field
  | [field] => some field
  | fields => Field.merge? none fields

/-- One field of the occurrences of a slot in `count` alternatives; it may be empty if it is missing
from one of them. -/
def composite? (count : Nat) (fields : List Field) : Option Field :=
  (unifyBucket? fields).map fun field =>
    if fields.length < count then field.makeNullable else field

/-- Unify alternatives that are all one mergeable field. -/
def mergeSingle (name : String) (fields : List Field) (anchor : Span) (diagnostics : Diagnostics) :
    Merged :=
  match Field.merge? (some name) fields with
  | some field => ⟨⟨[field]⟩, diagnostics, []⟩
  | none => ⟨.empty, diagnostics.report (incompatible anchor fields), []⟩

/-- Unify alternatives of any form. Repeated fields are reported first, then a conflict in the order
of names, then slots whose occurrences do not fit together, then a collision of types. -/
def mergeGeneral (name : String) (phrases : List Phrase) (anchor : Span)
    (diagnostics : Diagnostics) : Merged :=
  let parted := phrases.map fun phrase => splitRepeats [] phrase.fields
  let alternatives := parted.map (·.1)
  let repeats := parted.flatMap (·.2)
  let repeated := diagnostics.reportAll (repeats.map (duplicate anchor))
  let ordered :=
    if (nameOrder alternatives).result.isNone then
      repeated.report (.ofKind .inconsistentFieldOrder anchor)
    else repeated
  let slots := buckets alternatives.flatten
  let broken := slots.filter fun fields => (composite? phrases.length fields).isNone
  if broken.isEmpty then
    let (phrase, verified) := verify ⟨slots.filterMap (composite? phrases.length)⟩ anchor ordered
    ⟨phrase, verified, [⟨.debug, name ++ ": " ++ phrase.toText⟩]⟩
  else
    ⟨.empty, ordered.reportAll (broken.map (incompatible anchor)),
      [⟨.debug, name ++ ": unmergeable fields, schema collapsed"⟩]⟩

end Unify

/-- Unify the phrases of all alternatives of the nonterminal `name`. Fields are matched by signature
and keep the order of first appearance; one that some alternative lacks may be empty. When every
alternative is one mergeable field, these are merged into one field that is called `name`. -/
def merge (name : String) (phrases : List Phrase) (anchor : Span) (diagnostics : Diagnostics) :
    Merged :=
  if phrases = [] then ⟨.empty, diagnostics, []⟩
  else if phrases.all Phrase.isSingleElement then
    mergeSingle name (phrases.flatMap (·.fields)) anchor diagnostics
  else mergeGeneral name phrases anchor diagnostics

end ScanSchema
