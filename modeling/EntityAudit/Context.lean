import EntityAudit.Statement

/-!
Contexts: a snak of an entity together with the place where it stands. Statements of one entity
are told apart by their positions, so that equal statements stay different.
-/

namespace EntityAudit

inductive Role where
  | statement
  | qualifier
  | reference
  deriving DecidableEq

namespace Role

def all : List Role := [statement, qualifier, reference]

def name : Role → String
  | statement => "statement"
  | qualifier => "qualifier"
  | reference => "reference"

def ofString? (s : String) : Option Role := all.find? (·.name = s)

end Role

inductive Place where
  | mainSnak
  | qualifier (snak : Snak)
  | reference (reference : Reference) (snak : Snak)

inductive Grouping where
  | nonDeprecated
  | best
  deriving DecidableEq

structure Context where
  entity : Entity
  statement : Statement
  position : Nat
  place : Place

structure Cursor where
  role : Role
  entity : EntityId
  statementProperty : PropertyId
  guid : String
  snakProperty : PropertyId
  snakHash : String
  referenceHash : Option String := none
  deriving DecidableEq

def sharesSeparators (separators : List PropertyId) (a b : Statement) : Bool :=
  separators.all fun p =>
    let hashes (s : Statement) := ((s.qualifiersOf p).map (·.hash)).mergeSort
    hashes a == hashes b

namespace Context

def role (c : Context) : Role :=
  match c.place with
  | .mainSnak => .statement
  | .qualifier _ => .qualifier
  | .reference _ _ => .reference

def snak (c : Context) : Snak :=
  match c.place with
  | .mainSnak => c.statement.mainSnak
  | .qualifier s => s
  | .reference _ s => s

def property (c : Context) : PropertyId := c.snak.property

def rank? (c : Context) : Option Rank :=
  match c.place with
  | .mainSnak => some c.statement.rank
  | _ => none

def statementGroup (c : Context) (grouping : Grouping) (separators : List PropertyId) :
    List (Statement × Nat) :=
  let candidates := match grouping with
    | .nonDeprecated => c.entity.statements.placed.filter fun (e : Statement × Nat) => !e.1.isDeprecated
    | .best => c.entity.statements.best
  let group := candidates.filter fun (e : Statement × Nat) => sharesSeparators separators c.statement e.1
  if group.any (·.2 == c.position) then group else group ++ [(c.statement, c.position)]

def group (c : Context) (grouping : Grouping) (separators : List PropertyId) : List Snak :=
  match c.place with
  | .mainSnak => (c.statementGroup grouping separators).map (·.1.mainSnak)
  | .qualifier _ => c.statement.qualifiers
  | .reference r _ => r.snaks

def cursor (c : Context) : Cursor where
  role := c.role
  entity := c.entity.id
  statementProperty := c.statement.property
  guid := c.statement.guid
  snakProperty := c.property
  snakHash := c.snak.hash
  referenceHash := match c.place with
    | .reference r _ => some r.hash
    | _ => none

def ofStatement (entity : Entity) (statement : Statement) (position : Nat) : List Context :=
  let at_ (place : Place) : Context := ⟨entity, statement, position, place⟩
  at_ .mainSnak :: statement.qualifiers.map (fun s => at_ (.qualifier s)) ++
    statement.references.flatMap fun r => r.snaks.map fun s => at_ (.reference r s)

end Context

namespace Cursor

def toJson (c : Cursor) : Json :=
  .record [
    ("context_type", some (.text c.role.name)),
    ("entity_id", some (.text c.entity.toString)),
    ("statement_property_id", some (.text c.statementProperty.toString)),
    ("statement_guid", some (.text c.guid)),
    ("snak_property_id", some (.text c.snakProperty.toString)),
    ("snak_hash", some (.text c.snakHash)),
    ("reference_hash", c.referenceHash.map .text)]

def ofJson? (j : Json) : Option Cursor := do
  let r ← j.record? ["context_type", "entity_id", "statement_property_id", "statement_guid",
    "snak_property_id", "snak_hash", "reference_hash"]
  let property? := Json.parsed? PropertyId.ofString?
  return {
    role := ← r.required? "context_type" (Json.choice? Role.ofString?)
    entity := ← r.required? "entity_id" (Json.parsed? EntityId.ofString?)
    statementProperty := ← r.required? "statement_property_id" property?
    guid := ← r.required? "statement_guid" Json.string?
    snakProperty := ← r.required? "snak_property_id" property?
    snakHash := ← r.required? "snak_hash" Json.string?
    referenceHash := ← r.optional? "reference_hash" Json.string? }

end Cursor

end EntityAudit
