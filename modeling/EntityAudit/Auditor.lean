import EntityAudit.ConstraintSource
import EntityAudit.Rule.Catalog

/-!
Checking entities against constraints. Every snak of every statement that is not deprecated is
checked against all constraints of its property. Before a rule is asked, the scope, the
deprecation and the exceptions of the constraint are looked at; afterwards the weight of the
constraint decides how a violation is reported.
-/

namespace EntityAudit

structure Auditor where
  services : Services
  constraints : ConstraintSource
  catalog : Catalog

namespace Auditor

def ofServices (services : Services) (constraints : ConstraintSource) : Auditor where
  services := services
  constraints := constraints
  catalog := Catalog.ofTypes services.config.constraintTypes

variable (a : Auditor)

def config : Config := a.services.config

def roles (rule : Rule) (c : Constraint) : Parameters.Read (List Role) := do
  match ← Parameters.scope a.config c with
  | none => return rule.roles
  | some roles =>
    match roles.find? (rule.support · = .notSupported) with
    | some role => throw (.unsupportedScope a.config.parameters.constraintScope role)
    | none => return roles

def weigh (c : Constraint) (v : Verdict) : Parameters.Read Verdict := do
  if v.status ≠ .violation then return v
  match ← Parameters.weight a.config c with
  | some .mandatory => return v
  | some .suggestion => return { v with status := .suggestion }
  | none => return { v with status := .warning }

def judge (rule : Rule) (context : Context) (c : Constraint) : Parameters.Read Verdict := do
  let roles ← a.roles rule c
  if context.role ∉ roles then return { status := .notInScope }
  if c.deprecated then return { status := .deprecated }
  let exceptions ← Parameters.exceptions a.config c
  if context.entity.id ∈ exceptions then return { status := .exception }
  if rule.support context.role = .todo then return .todo
  a.weigh c (← rule.verdict a.services context c)

def badParameters (e : ParameterError) : Verdict :=
  { status := .badParameters, message := some ⟨e.key, e.message⟩ }

def verdict (context : Context) (c : Constraint) : Verdict :=
  match a.catalog.get? c.type with
  | none => .todo
  | some rule =>
    match a.judge rule context c with
    | .ok v => v
    | .error e => badParameters e

def result (cursor : Cursor) (c : Constraint) (v : Verdict) : Result where
  cursor := cursor
  constraint := c
  parameters := v.parameters
  status := v.status
  message := v.message
  metadata := v.metadata

def applicable (constraintIds : Option (List String)) (p : PropertyId) : List Constraint :=
  (a.constraints p).filter fun c => constraintIds.all (·.contains c.id)

def fetch (constraintIds : Option (List String)) (statements : List Statement) : ConstraintTable :=
  let used := SortedMap.setOf (statements.flatMap fun s => s.snaks.map (·.property))
  SortedMap.ofList (used.keys.map fun p => (p, a.applicable constraintIds p))

def contextResults (fetched : ConstraintTable) (context : Context) : List Result :=
  let cursor := context.cursor
  (fetched.of context.property).map fun c => result cursor c (a.verdict context c)

def entityResults (id : EntityId) (guids constraintIds : Option (List String)) : List Result :=
  match a.services.find? id with
  | none => []
  | some e =>
    let e := e.withCounts
    let statements := e.statements.placed.filter fun s =>
      !s.1.isDeprecated && guids.all (·.contains s.1.guid)
    let fetched := a.fetch constraintIds (statements.map (·.1))
    statements.flatMap fun (s, position) =>
      (Context.ofStatement e s position).flatMap (a.contextResults fetched)

def claimResults (guid : String) (constraintIds : Option (List String)) : List Result :=
  match Statement.entityOfGuid guid with
  | .ok id => a.entityResults id (some [guid]) constraintIds
  | .error _ => []

def problems (c : Constraint) : List ParameterError :=
  match a.catalog.get? c.type with
  | none => []
  | some rule =>
    Rule.problem (a.roles rule c) ++ Rule.problem (Parameters.exceptions a.config c) ++
      Rule.problem (Parameters.weight a.config c) ++ rule.problems a.config c

def propertyProblems (p : PropertyId) : SortedMap String (List ParameterError) :=
  SortedMap.ofList ((a.constraints p).map fun c => (c.id, a.problems c))

def constraintProblems? (id : String) : Option (List ParameterError) := do
  let (property, _) ← Text.splitOnce? '$' id.toList
  let p ← PropertyId.ofString? (String.ofList property)
  let c ← (a.constraints p).find? (·.id = id)
  return a.problems c

end Auditor

end EntityAudit
