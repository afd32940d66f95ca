import EntityAudit.Rule.Basic

namespace EntityAudit

namespace Message

def onlyAsQualifier (p : PropertyId) (role : Role) : Message :=
  ⟨"qualifier", p.toString ++ " should only be used as a qualifier, not in a " ++ role.name ++ "."⟩

def onlyInReferences (p : PropertyId) (role : Role) : Message :=
  ⟨"reference", p.toString ++ " should only be used in references, not in a " ++ role.name ++ "."⟩

def outsideScope (p : PropertyId) (role : Role) : Message :=
  ⟨"property-scope", p.toString ++ " should not be used in a " ++ role.name ++ "."⟩

def entityKind (p : PropertyId) (allowed : List String) (kind : EntityKind) : Message :=
  ⟨"allowed-entity-types", p.toString ++ " should only be used on entities of type " ++
    list allowed ++ ", not on " ++ kind.name ++ "."⟩

def invalidQualifier (qualifier p : PropertyId) : Message :=
  ⟨"qualifiers", qualifier.toString ++ " is not a valid qualifier for " ++ p.toString ++ "."⟩

def missingQualifiers (p : PropertyId) (missing : List PropertyId) : Message :=
  ⟨"mandatory-qualifiers", p.toString ++ " statements need qualifiers for " ++
    list (missing.map (·.toString)) ++ "."⟩

end Message

namespace Rule

def qualifier : Rule where
  support
    | .qualifier => .notSupported
    | _ => .supported
  roles := [.statement, .reference]
  problems _ _ := []
  verdict _ context c := .ok (.violation (.onlyAsQualifier c.property context.role))

def reference : Rule where
  support := everywhere
  roles := Role.all
  problems _ _ := []
  verdict _ context c :=
    .ok (.of (context.role = .reference) (.onlyInReferences c.property context.role))

def propertyScope : Rule where
  support := everywhere
  roles := Role.all
  problems config c := problem (Parameters.propertyScope config c)
  verdict services context c := do
    let allowed ← Parameters.propertyScope services.config c
    let v := Verdict.of (allowed.contains context.role) (.outsideScope c.property context.role)
    return v.withParameter "property_scope" (allowed.map (·.name))

def allowedEntityTypes : Rule where
  support := mainSnaksOnly
  roles := [.statement]
  problems config c := problem (Parameters.entityKinds config c)
  verdict services context c := do
    let allowed ← Parameters.entityKinds services.config c
    let names := allowed.map (·.name)
    let kind := context.entity.kind
    let v := Verdict.of (allowed.contains kind) (.entityKind c.property names kind)
    return v.withParameter "entity_type" names

def qualifiers : Rule where
  support := mainSnaksOnly
  roles := [.statement]
  problems config c := problem (Parameters.properties config c)
  verdict services context c := do
    let allowed ← Parameters.properties services.config c
    let used := context.statement.qualifiers.map (·.property)
    let v := match used.find? (¬ allowed.contains ·) with
      | none => Verdict.compliance
      | some p => .violation (.invalidQualifier p c.property)
    return v.withParameter "property" (allowed.map (·.toString))

def mandatoryQualifiers : Rule where
  support := mainSnaksOnly
  roles := [.statement]
  problems config c := problem (Parameters.someProperties config c)
  verdict services context c := do
    let required ← Parameters.someProperties services.config c
    let missing := required.filter fun p => (context.statement.qualifiersOf p).isEmpty
    let v := Verdict.of missing.isEmpty (.missingQualifiers c.property missing)
    return v.withParameter "property" (required.map (·.toString))

end Rule

end EntityAudit
