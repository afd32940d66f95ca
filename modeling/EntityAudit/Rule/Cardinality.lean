import EntityAudit.Rule.Basic

/-!
Rules about how many values a property has, and about values that no other entity may have.
Separators split the values into groups that are counted apart.
-/

namespace EntityAudit

namespace Message

def severalValues (p : PropertyId) (n : Nat) : Message :=
  ⟨"single-value", p.toString ++ " should have a single value, but there are " ++ toString n ++ "."⟩

def oneValueOnly (p : PropertyId) : Message :=
  ⟨"multi-value", p.toString ++ " should have more than one value."⟩

def severalBestValues (p : PropertyId) (n : Nat) : Message :=
  ⟨"single-best-value", p.toString ++ " should have a single best value; mark one of the " ++
    toString n ++ " statements as preferred."⟩

def usedElsewhere (p : PropertyId) (ids : List EntityId) : Message :=
  ⟨"unique-value", "This " ++ p.toString ++ " value is also used by " ++
    list (ids.map (·.toString)) ++ "."⟩

end Message

namespace Context

def countIn (c : Context) (group : List Snak) : Nat := group.countP (·.property = c.property)

def valueCount (c : Context) (separators : List PropertyId) : Nat :=
  if c.role = .statement ∧ separators.isEmpty then
    (c.entity.statements.propertyCounts.get? c.property).getD 0
  else c.countIn (c.group .nonDeprecated separators)

def isBest (c : Context) : Bool := c.entity.statements.best.any (·.2 == c.position)

def bestCount (c : Context) (separators : List PropertyId) : Nat :=
  if c.isBest then c.countIn (c.group .best separators) else 0

end Context

namespace Rule

def onCount (support : Role → Support) (roles : List Role)
    (count : Context → List PropertyId → Nat) (allowed : Nat → Bool)
    (message : PropertyId → Nat → Message) : Rule where
  support := support
  roles := roles
  problems config c := problem (Parameters.separators config c)
  verdict services context c := do
    let separators ← Parameters.separators services.config c
    let n := count context separators
    return (Verdict.of (allowed n) (message c.property n)).withParameter "separator"
      (separators.map (·.toString))

def singleValue : Rule :=
  onCount everywhere [.statement, .qualifier] Context.valueCount (· ≤ 1) .severalValues

def multiValue : Rule :=
  onCount everywhere [.statement, .qualifier] Context.valueCount (1 < ·) fun p _ => .oneValueOnly p

def singleBestValue : Rule :=
  onCount mainSnaksOnly [.statement] Context.bestCount (· ≤ 1) .severalBestValues

def sameValue (graph : GraphQuery) (context : Context) :
    Except QueryError (Answer (List EntityId)) :=
  let id := context.entity.id
  match context.place with
  | .mainSnak => graph.sameStatement id context.statement
  | .qualifier s => graph.sameQualifier id s
  | .reference _ s => graph.sameReference id s

def uniqueValue : Rule where
  support := everywhere
  roles := [.statement]
  problems _ _ := []
  verdict services context c := .ok <|
    match services.graph with
    | none => .todo
    | some graph =>
      if context.snak.value?.isNone then .compliance
      else match sameValue graph context with
        | .ok others => (Verdict.of others.value.isEmpty
            (.usedElsewhere c.property others.value)).withMetadata others.metadata
        | .error e => .violation (.queryFailed e)

end Rule

end EntityAudit
