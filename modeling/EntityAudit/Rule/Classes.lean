import EntityAudit.Membership
import EntityAudit.Rule.Basic

namespace EntityAudit

namespace Message

def outsideClasses (key : String) (subject : EntityId) (relation : Relation)
    (classes : List String) : Message :=
  ⟨key, subject.toString ++ " should be an " ++ relation.name ++ " of " ++ list classes ++ "."⟩

end Message

namespace Rule

def classProblems (config : Config) (c : Constraint) : List ParameterError :=
  problem (Parameters.classes config c) ++ problem (Parameters.relation config c)

def belongs (services : Services) (subject : Entity) (classes : List ItemId) (relation : Relation)
    (key : String) : Verdict :=
  let names := classes.map (·.toString)
  let v := match Membership.check services.config services.find? classes services.graph subject relation with
    | .known answer => (Verdict.of answer.value
        (.outsideClasses key subject.id relation names)).withMetadata answer.metadata
    | .unavailable => .todo
    | .failed e => .violation (.queryFailed e)
  (v.withParameter "class" names).withParameter "relation" [relation.name]

def typeOf : Rule where
  support := everywhere
  roles := Role.all
  problems := classProblems
  verdict services context c := do
    let classes ← Parameters.classes services.config c
    let relation ← Parameters.relation services.config c
    return belongs services context.entity classes relation "type"

def valueType : Rule where
  support := everywhere
  roles := Role.all
  problems := classProblems
  verdict services context c := do
    let classes ← Parameters.classes services.config c
    let relation ← Parameters.relation services.config c
    return .settle do
      let target ← context.requireEntity
      let v : Verdict := match services.find? target with
        | none => .violation (.entityMustExist c.property target)
        | some e => belongs services e classes relation "value-type"
      return v.withMetadata (.ofEntity target)

end Rule

end EntityAudit
