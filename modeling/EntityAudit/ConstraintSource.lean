import EntityAudit.Config
import EntityAudit.Store

/-!
Where the constraints of a property come from: statements of the property's entity define them,
and they are either read from the entity at every use or kept in a table.
-/

namespace EntityAudit

namespace Constraint

def ofStatement? (p : PropertyId) (s : Statement) : Option Constraint :=
  (s.mainSnak.entity?.bind (·.item?)).map fun type => {
    id := s.guid
    property := p
    type := type
    parameters := ParameterSnaks.ofSnaks s.qualifiers
    deprecated := s.isDeprecated }

def ofEntity (config : Config) (e : Entity) : List Constraint :=
  match e.id with
  | .item _ => []
  | .property p =>
    (e.statements.ofProperty config.parameters.propertyConstraint).filterMap (ofStatement? p)

end Constraint

abbrev ConstraintTable := SortedMap PropertyId (List Constraint)

namespace ConstraintTable

def add (t : ConstraintTable) (c : Constraint) : ConstraintTable :=
  t.alter c.property fun l => l.getD [] ++ [c]

def replace (t : ConstraintTable) (p : PropertyId) (l : List Constraint) : ConstraintTable :=
  if l.isEmpty then t.erase p else t.insert p l

def importEntity (config : Config) (t : ConstraintTable) (e : Entity) : ConstraintTable :=
  match e.id with
  | .item _ => t
  | .property p => t.replace p (Constraint.ofEntity config e)

def of (t : ConstraintTable) (p : PropertyId) : List Constraint := (t.get? p).getD []

end ConstraintTable

abbrev ConstraintSource := PropertyId → List Constraint

def ConstraintSource.ofEntities (config : Config) (find? : EntityId → Option Entity) :
    ConstraintSource := fun p =>
  match find? (.property p) with
  | some e => Constraint.ofEntity config e
  | none => []

end EntityAudit
