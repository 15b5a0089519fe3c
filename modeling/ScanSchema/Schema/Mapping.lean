/-!
# Mappings

A mapping tells how a matched symbol is stored into a field of a syntax tree node. Unification
carries mappings along without a look inside.
-/

namespace ScanSchema

/-- How a symbol is stored into a node. -/
structure Mapping where
  /-- The field of the node. -/
  field : String
  /-- The member of an enumeration that is stored instead of the symbol. -/
  value : Option String := none
  /-- Whether the value is appended to a list instead of replacing what is there. -/
  isAddition : Bool := false
  deriving DecidableEq, Repr, Inhabited

/-- The written form: field, operator and value, where `$` is the symbol itself. -/
def Mapping.toText (mapping : Mapping) : String :=
  mapping.field ++ (if mapping.isAddition then "+=" else "=") ++ mapping.value.getD "$"

end ScanSchema
