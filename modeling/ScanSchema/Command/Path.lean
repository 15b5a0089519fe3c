/-!
# Paths

The form of a table file is told from its name. The name of a file is the last part of its path, and
its extension is what follows the last dot in the name, unless the name begins with that dot.
-/

namespace ScanSchema.Command

/-- The parts of a path. Empty parts and parts that name the directory itself do not count. -/
def pathParts (path : String) : List String :=
  (path.splitOn "/").filter fun part => part ≠ "" && part ≠ "."

/-- The extension in the name of a file. -/
def nameExtension? (name : String) : Option String :=
  let parts := name.splitOn "."
  match parts.reverse with
  | last :: before =>
    if before.all (·.isEmpty) && before.length ≤ 1 then none else some last
  | [] => none

/-- Whether a path names a JSON file. -/
def isJsonPath (path : String) : Bool :=
  match (pathParts path).getLast? with
  | none => false
  | some name => name ≠ ".." && nameExtension? name == some "json"

end ScanSchema.Command
