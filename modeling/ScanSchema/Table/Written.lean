import ScanSchema.Json.Basic
import ScanSchema.Json.Record
import ScanSchema.Table.Basic

/-!
# Tables as JSON text

A definition is written as an object with a member for each of its fields, laid out on lines. It may
be read back from that form, and also from an array of the fields. Other members are passed over.
The catch-all class, the number of modes and the action of a rule may be left out.
-/

namespace ScanSchema

open Json

namespace RuleAction

/-- The actions and the words for them. -/
def words : List (String × RuleAction) := [("emit", .emit), ("skip", .skip)]

/-- The word for an action. -/
def word : RuleAction → String
  | .emit => "emit"
  | .skip => "skip"

end RuleAction

namespace Rule

/-- A rule as JSON. -/
def toJson (rule : Rule) : Json :=
  .object [("name", .string rule.name), ("action", .string rule.action.word)]

/-- What is known of a rule while it is read. -/
structure Draft where
  /-- The name, once it was read. -/
  name : Option String := none
  /-- The action, once it was read. -/
  action : Option RuleAction := none

/-- The written form of a rule. -/
def shape : RecordShape Draft Rule where
  name := "RuleDef"
  slots := [
    { name := "name", isOptional := false, isSet := (·.name.isSome),
      read := Reader.string.map fun name draft => { draft with name := some name } },
    { name := "action", isOptional := true, isSet := (·.action.isSome),
      read := (Reader.word RuleAction.words).map fun action draft =>
        { draft with action := some action } }]
  isClosed := false
  blank := {}
  finish := fun draft => do
    let some name := draft.name | throw (.missingField "name")
    return { name, action := draft.action.getD .emit }

end Rule

namespace Definition

/-- A definition as JSON. -/
def toJson (definition : Definition) : Json :=
  .object [
    ("char_classes", .array (definition.charClasses.map fun cls => .integer cls.toNat)),
    ("catch_all", .integer definition.catchAll.toNat),
    ("class_count", .integer definition.classCount),
    ("modes", .integer definition.modes),
    ("transitions",
      .array (definition.transitions.map fun row => .array (row.map fun code =>
        .integer code.toInt))),
    ("lexeme_rules", .array (definition.lexemeRules.map fun rule => .integer rule.toNat)),
    ("rules", .array (definition.rules.map Rule.toJson))]

/-- What is known of a definition while it is read. -/
structure Draft where
  /-- The classes of the first characters, once they were read. -/
  charClasses : Option (List UInt8) := none
  /-- The catch-all class, once it was read. -/
  catchAll : Option UInt8 := none
  /-- The number of classes, once it was read. -/
  classCount : Option Nat := none
  /-- The number of modes, once it was read. -/
  modes : Option Nat := none
  /-- The rows of the matrix, once they were read. -/
  transitions : Option (List (List Int32)) := none
  /-- The rules of the lexemes, once they were read. -/
  lexemeRules : Option (List UInt16) := none
  /-- The rules, once they were read. -/
  rules : Option (List Rule) := none

/-- The definition of a draft, or the first field that is missing. -/
def ofDraft (draft : Draft) : Except Mismatch Definition := do
  let some charClasses := draft.charClasses | throw (.missingField "char_classes")
  let some classCount := draft.classCount | throw (.missingField "class_count")
  let some transitions := draft.transitions | throw (.missingField "transitions")
  let some lexemeRules := draft.lexemeRules | throw (.missingField "lexeme_rules")
  let some rules := draft.rules | throw (.missingField "rules")
  return {
    charClasses, catchAll := draft.catchAll.getD 1, classCount, modes := draft.modes.getD 1,
    transitions, lexemeRules, rules }

/-- The written form of a definition. -/
def shape : RecordShape Draft Definition where
  name := "TableDef"
  slots := [
    { name := "char_classes", isOptional := false, isSet := (·.charClasses.isSome),
      read := (Reader.list Reader.uint8).map fun charClasses draft =>
        { draft with charClasses := some charClasses } },
    { name := "catch_all", isOptional := true, isSet := (·.catchAll.isSome),
      read := Reader.uint8.map fun catchAll draft => { draft with catchAll := some catchAll } },
    { name := "class_count", isOptional := false, isSet := (·.classCount.isSome),
      read := Reader.count.map fun classCount draft =>
        { draft with classCount := some classCount } },
    { name := "modes", isOptional := true, isSet := (·.modes.isSome),
      read := Reader.count.map fun modes draft => { draft with modes := some modes } },
    { name := "transitions", isOptional := false, isSet := (·.transitions.isSome),
      read := (Reader.list (Reader.list Reader.int32)).map fun transitions draft =>
        { draft with transitions := some transitions } },
    { name := "lexeme_rules", isOptional := false, isSet := (·.lexemeRules.isSome),
      read := (Reader.list Reader.uint16).map fun lexemeRules draft =>
        { draft with lexemeRules := some lexemeRules } },
    { name := "rules", isOptional := false, isSet := (·.rules.isSome),
      read := (Reader.list Rule.shape.reader).map fun rules draft =>
        { draft with rules := some rules } }]
  isClosed := false
  blank := {}
  finish := ofDraft

/-- The definition that a JSON text holds. -/
def ofJsonText (text : String) : Except LocatedFault Definition := readDocument shape.reader text

/-- The JSON text of a definition. -/
def toJsonText (definition : Definition) : String := definition.toJson.pretty

end Definition

end ScanSchema
