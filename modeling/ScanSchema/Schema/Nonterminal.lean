import ScanSchema.Json.Record
import ScanSchema.Schema.Unify

/-!
# Nonterminals and their schemas

A nonterminal is given by its alternatives, each a list of field specifications. Its schema is found
by concatenating every alternative and merging the results. The nonterminal is also written out as a
rule, and diagnostics point into that text: those of an alternative at the alternative, those of the
merge at the whole right-hand side. Spans are made while the rule is written, one alternative after the
other. So whatever is wrong first ends unification: a field without types, or a span whose ends are the
wrong way round because the rule has become too long for its offsets.
-/

namespace ScanSchema

open Json

/-- A field as a grammar gives it. -/
structure FieldSpec where
  /-- The name, if one is given. -/
  name : Option String := none
  /-- The types. -/
  types : List String
  /-- Whether the field is mergeable; if nothing is said, it is unless it has a name. -/
  isMergeable : Option Bool := none
  /-- Whether the slot may be empty. -/
  isNullable : Bool := false
  /-- Whether the slot holds a list. -/
  isList : Bool := false
  /-- How the symbol is stored. -/
  mapping : Option Mapping := none
  deriving DecidableEq, Repr, Inhabited

/-- A nonterminal: for each alternative the fields in the order of the right-hand side. -/
structure Nonterminal where
  /-- The name. -/
  name : String
  /-- The alternatives. -/
  alternatives : List (List FieldSpec)
  deriving DecidableEq, Repr, Inhabited

/-- The unified fields of a nonterminal. -/
structure Schema where
  /-- The name of the nonterminal. -/
  name : String
  /-- Its fields. -/
  phrase : Phrase
  /-- The nonterminal written out as a rule. -/
  rule : String
  /-- What is wrong with the nonterminal; the spans are places in `rule`. -/
  diagnostics : Diagnostics
  deriving DecidableEq, Repr

/-- A nonterminal with a field that has no types. -/
structure EmptyTypes where
  /-- The name of the nonterminal. -/
  nonterminal : String
  deriving DecidableEq, Repr

/-- The wording for a field without types. -/
def EmptyTypes.message (error : EmptyTypes) : String :=
  error.nonterminal ++ ": field without types"

/-- What ends unification without schemas. -/
inductive Setback where
  /-- The nonterminal is refused. -/
  | refused (error : EmptyTypes)
  /-- An operation is called without what it is promised. -/
  | misused (misuse : Misuse)
  deriving DecidableEq, Repr

namespace FieldSpec

/-- The field that a specification describes; nothing if it has no types. -/
def toField? (spec : FieldSpec) : Option Field :=
  (TypeSet.ofList? spec.types).map fun types =>
    { Field.ofTypes spec.name types (spec.isMergeable.getD spec.name.isNone) with
      isNullable := spec.isNullable
      isList := spec.isList
      mapping := spec.mapping }

/-- The fields of an alternative; nothing if one of them has no types. -/
def toFields? (specs : List FieldSpec) : Option (List Field) := specs.mapM toField?

end FieldSpec

namespace Schema

/-- What stands between two alternatives of a rule. -/
def separator : String := " | "

/-- The text of an alternative: its fields with blanks between them. -/
def alternativeText (fields : List Field) : String := (Phrase.mk fields).toText

/-- The left-hand side of a rule, up to the first alternative. -/
def leftHandSide (name : String) : String := name ++ " ::= "

/-- The right-hand side of a rule. -/
def rightHandSide (alternatives : List (List Field)) : String :=
  separator.intercalate (alternatives.map alternativeText)

/-- The span from byte `start` of a rule to byte `stop`. -/
def spanBetween (start stop : Nat) : Except Setback Span :=
  match Span.ofOffsets? start stop with
  | some span => .ok span
  | none => .error (.misused .reversedSpan)

/-- The fields of an alternative of a nonterminal. -/
def fieldsOf (nonterminal : String) (specs : List FieldSpec) : Except Setback (List Field) :=
  match FieldSpec.toFields? specs with
  | some fields => .ok fields
  | none => .error (.refused ⟨nonterminal⟩)

/-- Concatenate alternatives in turn, the first of which stands at byte `offset` of the rule. The answer
is the fields of each alternative, the phrase of each, and what was found. -/
def concatAll (nonterminal : String) (offset : Nat) (diagnostics : Diagnostics) :
    List (List FieldSpec) → Except Setback (List (List Field) × List Phrase × Diagnostics)
  | [] => .ok ([], [], diagnostics)
  | specs :: rest => do
    let fields ← fieldsOf nonterminal specs
    let stop := offset + (alternativeText fields).utf8ByteSize
    let anchor ← spanBetween offset stop
    let (phrase, found) := concat (fields.map fun field => ⟨[field]⟩) anchor diagnostics
    let (alternatives, phrases, all) ←
      concatAll nonterminal (stop + separator.utf8ByteSize) found rest
    return (fields :: alternatives, phrase :: phrases, all)

/-- The schema of a nonterminal. -/
def ofNonterminal (nonterminal : Nonterminal) : Except Setback Schema := do
  let left := leftHandSide nonterminal.name
  let (alternatives, phrases, found) ←
    concatAll nonterminal.name left.utf8ByteSize ∅ nonterminal.alternatives
  let right := rightHandSide alternatives
  let anchor ← spanBetween left.utf8ByteSize (left.utf8ByteSize + right.utf8ByteSize)
  let merged := merge nonterminal.name phrases anchor found
  return {
    name := nonterminal.name, phrase := merged.phrase, rule := left ++ right,
    diagnostics := merged.diagnostics }

/-- The schemas of some nonterminals, in their order. -/
def ofNonterminals (nonterminals : List Nonterminal) : Except Setback (List Schema) :=
  nonterminals.mapM ofNonterminal

/-- The messages of all diagnostics. -/
def errors (schema : Schema) : List String := schema.diagnostics.entries.map (·.message)

/-- A schema as JSON; errors are mentioned only if there are any. -/
def toJson (schema : Schema) : Json :=
  let errors := schema.errors
  .object ([("name", .string schema.name), ("fields", schema.phrase.toJson)] ++
    if errors.isEmpty then [] else [("errors", .array (errors.map Json.string))])

end Schema

/-- What is known of a mapping while it is read. -/
structure MappingDraft where
  /-- The field, once it was read. -/
  field : Option String := none
  /-- The value, once it was read. -/
  value : Option (Option String) := none
  /-- Whether the mapping appends, once it was read. -/
  isAddition : Option Bool := none

/-- The written form of a mapping. -/
def Mapping.shape : RecordShape MappingDraft Mapping where
  name := "MappingSpec"
  slots := [
    { name := "field", isOptional := false, isSet := (·.field.isSome),
      read := Reader.string.map fun field draft => { draft with field := some field } },
    { name := "value", isOptional := true, isSet := (·.value.isSome),
      read := (Reader.nullable Reader.string).map fun value draft =>
        { draft with value := some value } },
    { name := "append", isOptional := true, isSet := (·.isAddition.isSome),
      read := Reader.bool.map fun isAddition draft =>
        { draft with isAddition := some isAddition } }]
  isClosed := true
  blank := {}
  finish := fun draft => do
    let some field := draft.field | throw (.missingField "field")
    return { field, value := draft.value.getD none, isAddition := draft.isAddition.getD false }

namespace FieldSpec

/-- What is known of a field while it is read. -/
structure Draft where
  /-- The name, once it was read. -/
  name : Option (Option String) := none
  /-- The types, once they were read. -/
  types : Option (List String) := none
  /-- Whether the field is mergeable, once it was read. -/
  isMergeable : Option (Option Bool) := none
  /-- Whether the slot may be empty, once it was read. -/
  isNullable : Option Bool := none
  /-- Whether the slot holds a list, once it was read. -/
  isList : Option Bool := none
  /-- The mapping, once it was read. -/
  mapping : Option (Option Mapping) := none

/-- The written form of a field. -/
def shape : RecordShape Draft FieldSpec where
  name := "FieldSpec"
  slots := [
    { name := "name", isOptional := true, isSet := (·.name.isSome),
      read := (Reader.nullable Reader.string).map fun name draft =>
        { draft with name := some name } },
    { name := "types", isOptional := false, isSet := (·.types.isSome),
      read := (Reader.list Reader.string).map fun types draft =>
        { draft with types := some types } },
    { name := "mergeable", isOptional := true, isSet := (·.isMergeable.isSome),
      read := (Reader.nullable Reader.bool).map fun isMergeable draft =>
        { draft with isMergeable := some isMergeable } },
    { name := "nullable", isOptional := true, isSet := (·.isNullable.isSome),
      read := Reader.bool.map fun isNullable draft =>
        { draft with isNullable := some isNullable } },
    { name := "list", isOptional := true, isSet := (·.isList.isSome),
      read := Reader.bool.map fun isList draft => { draft with isList := some isList } },
    { name := "mapping", isOptional := true, isSet := (·.mapping.isSome),
      read := (Reader.nullable Mapping.shape.reader).map fun mapping draft =>
        { draft with mapping := some mapping } }]
  isClosed := true
  blank := {}
  finish := fun draft => do
    let some types := draft.types | throw (.missingField "types")
    return {
      name := draft.name.getD none, types, isMergeable := draft.isMergeable.getD none,
      isNullable := draft.isNullable.getD false, isList := draft.isList.getD false,
      mapping := draft.mapping.getD none }

end FieldSpec

namespace Nonterminal

/-- What is known of a nonterminal while it is read. -/
structure Draft where
  /-- The name, once it was read. -/
  name : Option String := none
  /-- The alternatives, once they were read. -/
  alternatives : Option (List (List FieldSpec)) := none

/-- The written form of a nonterminal. -/
def shape : RecordShape Draft Nonterminal where
  name := "NonterminalSpec"
  slots := [
    { name := "name", isOptional := false, isSet := (·.name.isSome),
      read := Reader.string.map fun name draft => { draft with name := some name } },
    { name := "alternatives", isOptional := false, isSet := (·.alternatives.isSome),
      read := (Reader.list (Reader.list FieldSpec.shape.reader)).map fun alternatives draft =>
        { draft with alternatives := some alternatives } }]
  isClosed := true
  blank := {}
  finish := fun draft => do
    let some name := draft.name | throw (.missingField "name")
    let some alternatives := draft.alternatives | throw (.missingField "alternatives")
    return { name, alternatives }

/-- The nonterminals that a JSON text holds. -/
def listOfJsonText (text : String) : Except LocatedFault (List Nonterminal) :=
  readDocument (Reader.list shape.reader) text

end Nonterminal

end ScanSchema
