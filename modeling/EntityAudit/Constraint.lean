import EntityAudit.Snak

namespace EntityAudit

abbrev ParameterSnaks := SortedMap PropertyId (List Snak)

namespace ParameterSnaks

def add (m : ParameterSnaks) (s : Snak) : ParameterSnaks :=
  m.alter s.property fun l => l.getD [] ++ [s]

def ofSnaks (l : List Snak) : ParameterSnaks := l.foldl add SortedMap.empty

def of (m : ParameterSnaks) (p : PropertyId) : List Snak := (m.get? p).getD []

def toJson (m : ParameterSnaks) : Json :=
  .object (m.entries.map fun (p, l) => (p.toString, .array (l.map (·.toJson))))

def ofJson? : Json → Option ParameterSnaks :=
  Json.map? PropertyId.ofString? (Json.list? Snak.ofJson?)

end ParameterSnaks

structure Constraint where
  id : String
  property : PropertyId
  type : ItemId
  parameters : ParameterSnaks := SortedMap.empty
  deprecated : Bool := false
  deriving BEq

namespace Constraint

def toJson (c : Constraint) : Json :=
  .record [
    ("constraint_id", some (.text c.id)),
    ("property_id", some (.text c.property.toString)),
    ("constraint_type_item_id", some (.text c.type.toString)),
    ("parameters", some c.parameters.toJson),
    ("deprecated", if c.deprecated then some (.bool true) else none)]

def ofJson? (j : Json) : Option Constraint := do
  let r ← j.record? ["constraint_id", "property_id", "constraint_type_item_id", "parameters",
    "deprecated"]
  return {
    id := ← r.required? "constraint_id" Json.string?
    property := ← r.required? "property_id" (Json.parsed? PropertyId.ofString?)
    type := ← r.required? "constraint_type_item_id" (Json.parsed? ItemId.ofString?)
    parameters := ← r.defaulting? "parameters" SortedMap.empty ParameterSnaks.ofJson?
    deprecated := ← r.defaulting? "deprecated" false Json.bool? }

end Constraint

end EntityAudit
