import ScanSchema.Table.Basic

/-!
# Summaries of tables

A summary tells the shape of a table on its first line and lists the rules below it.
-/

namespace ScanSchema

namespace Table

/-- The line of a summary about one rule. -/
def ruleLine (table : Table) (rule : RuleId) : String :=
  let mark := match table.ruleAction rule with
    | .emit => ""
    | .skip => " (skip)"
  "  " ++ rule.toText ++ ": " ++ table.ruleName rule ++ mark

/-- The shape of a table and its rules. -/
def summary (table : Table) : String :=
  let shape := s!"{table.stateCount} states, {table.classCount} classes, {table.modeCount} modes, "
    ++ s!"{table.rules.size} rules"
  "\n".intercalate (shape :: table.ruleIds.map table.ruleLine)

end Table

end ScanSchema
