import ScanSchema.Table.Packed
import ScanSchema.Table.Written

/-!
# Loading and storing tables

A table is stored as JSON text or as bytes. Loading it decodes a definition and checks it, so it can
fail in three ways: the text is not the JSON of a definition, the bytes are not a binary table, or
the definition has a defect.
-/

namespace ScanSchema

/-- Why a table could not be loaded. -/
inductive LoadFault where
  /-- The text does not hold a definition. -/
  | json (fault : Json.LocatedFault)
  /-- The bytes do not hold a definition. -/
  | blob (fault : BlobFault)
  /-- The definition does not describe a table. -/
  | defect (found : Defect)
  deriving DecidableEq, Repr

/-- The wording of each fault. -/
def LoadFault.message : LoadFault → String
  | .json fault => "JSON parse error: " ++ fault.message
  | .blob fault => fault.message
  | .defect found => found.message

namespace Table

/-- Check a definition that was loaded. -/
def check (definition : Definition) : Except LoadFault Table :=
  (ofDefinition definition).mapError .defect

/-- Load a table from JSON text. -/
def ofJsonText (text : String) : Except LoadFault Table := do
  check (← (Definition.ofJsonText text).mapError .json)

/-- Load a table from bytes. -/
def ofBlob (bytes : List UInt8) : Except LoadFault Table := do
  check (← (Definition.ofBlob bytes).mapError .blob)

/-- The JSON text of a table. -/
def toJsonText (table : Table) : String := table.toDefinition.toJsonText

/-- The binary form of a table. -/
def toBlob (table : Table) : List UInt8 := table.toDefinition.toBlob

end Table

end ScanSchema
