import ScanSchema.Proofs.Json.Layout
import ScanSchema.Proofs.Table.Flattening
import ScanSchema.Table.Load

/-!
# JSON tables can be read back

The members of a written rule or definition are its fields, so reading them fills a draft with what
was written, and nothing is missing in the end. Counts are words of 64 bits: the reader refuses larger
ones, so the two counts of a table are assumed to be such words. The definition that was read passes
the check again, as it is that of a table.
-/

namespace ScanSchema

open Json

/-- An action is found by its word. -/
theorem RuleAction.lookup_words (action : RuleAction) : words.lookup action.word = some action := by
  cases action <;> rfl

/-- A rule is read from its written form. -/
theorem Rule.accepts_toJson (rule : Rule) : shape.reader.Accepts rule.toJson rule := by
  have hfills : shape.Fills {} [("name", .string rule.name), ("action", .string rule.action.word)]
      { name := some rule.name, action := some rule.action } := by
    refine .field rfl rfl (Reader.accepts_string rule.name) ?_
    refine .field rfl rfl (Reader.accepts_word rule.action.lookup_words) ?_
    exact .nil _
  exact RecordShape.accepts_object hfills rfl

namespace Definition

/-- The classes are read from their laid-out form. -/
theorem accepts_charClasses (classes : List UInt8) :
    (Reader.list Reader.uint8).Accepts (.array (classes.map fun cls => .integer cls.toNat))
      classes :=
  Reader.accepts_list fun cls _ => Reader.accepts_uint8 cls

/-- The rows are read from their laid-out form. -/
theorem accepts_transitions (rows : List (List Int32)) :
    (Reader.list (Reader.list Reader.int32)).Accepts
      (.array (rows.map fun row => .array (row.map fun code => .integer code.toInt))) rows :=
  Reader.accepts_list fun _ _ => Reader.accepts_list fun code _ => Reader.accepts_int32 code

/-- The rules of lexemes are read from their laid-out form. -/
theorem accepts_lexemeRules (numbers : List UInt16) :
    (Reader.list Reader.uint16).Accepts (.array (numbers.map fun rule => .integer rule.toNat))
      numbers :=
  Reader.accepts_list fun number _ => Reader.accepts_uint16 number

/-- The rules are read from their laid-out form. -/
theorem accepts_rules (rules : List Rule) :
    (Reader.list Rule.shape.reader).Accepts (.array (rules.map Rule.toJson)) rules :=
  Reader.accepts_list fun rule _ => rule.accepts_toJson

/-- A definition is read from its written form if its counts have 64 bits. -/
theorem accepts_toJson {definition : Definition} (hclasses : definition.classCount < 2 ^ 64)
    (hmodes : definition.modes < 2 ^ 64) :
    shape.reader.Accepts definition.toJson definition := by
  have hfills : shape.Fills {} [
      ("char_classes", .array (definition.charClasses.map fun cls => .integer cls.toNat)),
      ("catch_all", .integer definition.catchAll.toNat),
      ("class_count", .integer definition.classCount),
      ("modes", .integer definition.modes),
      ("transitions", .array (definition.transitions.map fun row =>
        .array (row.map fun code => .integer code.toInt))),
      ("lexeme_rules", .array (definition.lexemeRules.map fun rule => .integer rule.toNat)),
      ("rules", .array (definition.rules.map Rule.toJson))]
      { charClasses := some definition.charClasses, catchAll := some definition.catchAll,
        classCount := some definition.classCount, modes := some definition.modes,
        transitions := some definition.transitions, lexemeRules := some definition.lexemeRules,
        rules := some definition.rules } := by
    refine .field rfl rfl (accepts_charClasses definition.charClasses) ?_
    refine .field rfl rfl (Reader.accepts_uint8 definition.catchAll) ?_
    refine .field rfl rfl (Reader.accepts_count hclasses) ?_
    refine .field rfl rfl (Reader.accepts_count hmodes) ?_
    refine .field rfl rfl (accepts_transitions definition.transitions) ?_
    refine .field rfl rfl (accepts_lexemeRules definition.lexemeRules) ?_
    refine .field rfl rfl (accepts_rules definition.rules) ?_
    exact .nil _
  exact RecordShape.accepts_object hfills rfl

end Definition

/-- A table whose counts are words of 64 bits is read back from its JSON text, whatever the names of
its rules are. -/
theorem Table.ofJsonText_toJsonText (table : Table) (hclasses : table.classCount < 2 ^ 64)
    (hmodes : table.modeCount < 2 ^ 64) : ofJsonText table.toJsonText = .ok table := by
  have hread : Definition.ofJsonText table.toDefinition.toJsonText = .ok table.toDefinition :=
    readDocument_pretty (Definition.accepts_toJson hclasses hmodes)
  have hcheck : check table.toDefinition = .ok table := by
    rw [check, ofDefinition_toDefinition]
    rfl
  rw [toJsonText, ofJsonText, hread]
  exact hcheck

/-- A definition with a rule whose name has a quote, a backslash and control characters in it. -/
def Definition.escapes : Definition where
  charClasses := []
  classCount := 2
  transitions := [[-2, -1]]
  lexemeRules := []
  rules := [⟨"\"\\\n\u0001é", .emit⟩]

/-- It has no defect. -/
theorem Definition.defect?_escapes : Definition.escapes.defect? = none := by decide +kernel

/-- The table of that definition. -/
def Table.escapes : Table :=
  ⟨Definition.escapes.flatten, Definition.escapes.flatten_legal Definition.defect?_escapes⟩

/-- The table whose names need escapes is read back from its text. -/
theorem Table.ofJsonText_toJsonText_escapes :
    escapes.classCount < 2 ^ 64 ∧ escapes.modeCount < 2 ^ 64 ∧
      ofJsonText escapes.toJsonText = .ok escapes := by
  have hclasses : escapes.classCount < 2 ^ 64 := by decide
  have hmodes : escapes.modeCount < 2 ^ 64 := by decide
  exact ⟨hclasses, hmodes, ofJsonText_toJsonText escapes hclasses hmodes⟩

end ScanSchema
