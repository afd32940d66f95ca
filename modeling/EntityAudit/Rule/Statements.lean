import EntityAudit.Rule.Basic

namespace EntityAudit

namespace StatementList

def firstDescribed? (l : StatementList) (p : PropertyId) (choices : List ItemChoice) :
    Option Statement :=
  (l.ofProperty p).find? fun s => choices.any (·.describes s.mainSnak)

def firstReferring? (l : StatementList) (p : PropertyId) (target : EntityId) : Option Statement :=
  (l.ofProperty p).find? fun s => s.mainSnak.entity? == some target

def hasProperty (l : StatementList) (p : PropertyId) : Bool := !(l.ofProperty p).isEmpty

def hasConnection (l : StatementList) (p : PropertyId) (choices : List ItemChoice) : Bool :=
  if choices.isEmpty then l.hasProperty p else (l.firstDescribed? p choices).isSome

end StatementList

namespace Message

def conflictsWith (p other : PropertyId) : Message :=
  ⟨"conflicts-with", "An entity with " ++ p.toString ++ " should not have a statement for " ++
    other.toString ++ "."⟩

def alsoNeeds (key : String) (p other : PropertyId) : Message :=
  ⟨key, "An entity with " ++ p.toString ++ " should also have a statement for " ++
    other.toString ++ "."⟩

def targetNeeds (target : EntityId) (p : PropertyId) : Message :=
  ⟨"target-required-claim", target.toString ++ " should have a statement for " ++ p.toString ++ "."⟩

def pointsBack (key : String) (target : EntityId) (p : PropertyId) (subject : EntityId) : Message :=
  ⟨key, target.toString ++ " should also have the statement " ++ p.toString ++ " " ++
    subject.toString ++ "."⟩

end Message

namespace Rule

def connectionProblems (config : Config) (c : Constraint) : List ParameterError :=
  problem (Parameters.property config c) ++ problem (Parameters.items config c)

def withConnection (v : Verdict) (p : PropertyId) (choices : List ItemChoice) : Verdict :=
  (v.withParameter "property" [p.toString]).withParameter "items" (choices.map (·.toString))

def conflictsWith : Rule where
  support := mainSnaksOnly
  roles := [.statement]
  problems := connectionProblems
  verdict services context c := do
    let p ← Parameters.property services.config c
    let choices ← Parameters.items services.config c
    let conflicts := context.entity.statements.hasConnection p choices
    return withConnection (.of (!conflicts) (.conflictsWith c.property p)) p choices

def item : Rule where
  support := mainSnaksOnly
  roles := [.statement]
  problems := connectionProblems
  verdict services context c := do
    let p ← Parameters.property services.config c
    let choices ← Parameters.items services.config c
    let present := context.entity.statements.hasConnection p choices
    return withConnection (.of present (.alsoNeeds "item" c.property p)) p choices

def onTarget (services : Services) (context : Context) (c : Constraint)
    (verdict : EntityId → Entity → Verdict) : Verdict :=
  .settle do
    let target ← context.requireEntity
    let v := match services.find? target with
      | some e => verdict target e
      | none => .violation (.entityMustExist c.property target)
    return v.withMetadata (.ofEntity target)

def targetRequiredClaim : Rule where
  support := everywhere
  roles := Role.all
  problems := connectionProblems
  verdict services context c := do
    let p ← Parameters.property services.config c
    let choices ← Parameters.items services.config c
    return onTarget services context c fun target e =>
      withConnection (.of (e.statements.hasConnection p choices) (.targetNeeds target p)) p choices

def backReference (services : Services) (context : Context) (c : Constraint) (p : PropertyId)
    (key : String) : Verdict :=
  onTarget services context c fun target e =>
    .of (e.statements.firstReferring? p context.entity.id).isSome
      (.pointsBack key target p context.entity.id)

def symmetric : Rule where
  support := mainSnaksOnly
  roles := [.statement]
  problems _ _ := []
  verdict services context c := .ok (backReference services context c context.property "symmetric")

def inverse : Rule where
  support := mainSnaksOnly
  roles := [.statement]
  problems config c := problem (Parameters.property config c)
  verdict services context c := do
    let p ← Parameters.property services.config c
    return (backReference services context c p "inverse").withParameter "property" [p.toString]

end Rule

end EntityAudit
