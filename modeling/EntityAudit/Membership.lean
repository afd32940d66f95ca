import EntityAudit.GraphQuery
import EntityAudit.Parameters

/-!
Whether an entity belongs to a class: either by a walk up the subclass statements, level by level
and to a limited depth, or by a graph query. The walk records every class that it looks at, before
the class can make a difference.
-/

namespace EntityAudit

inductive Membership where
  | known (answer : Answer Bool)
  | unavailable
  | failed (e : QueryError)

namespace Membership

variable (config : Config) (find? : EntityId → Option Entity) (classes : List ItemId)

inductive Step where
  | found (visited : List ItemId)
  | next (visited frontier : List ItemId)

def level (visited next : List ItemId) : List ItemId → Step
  | [] => .next visited next
  | c :: frontier =>
    if c ∈ visited then level visited next frontier
    else
      match find? (.item c) with
      | none => level (c :: visited) next frontier
      | some e =>
        let parents := e.relatedItems [config.subclassOf]
        if parents.any (· ∈ classes) then .found (c :: visited)
        else level (c :: visited) (next ++ parents) frontier

inductive Walk where
  | found (visited : List ItemId)
  | ended (visited : List ItemId)
  | stopped (visited : List ItemId)

namespace Walk

def isFound : Walk → Bool
  | found _ => true
  | _ => false

def isStopped : Walk → Bool
  | stopped _ => true
  | _ => false

def visited : Walk → List ItemId
  | found visited => visited
  | ended visited => visited
  | stopped visited => visited

def answer (w : Walk) : Answer Bool := ⟨w.isFound, .ofEntities (w.visited.map .item)⟩

end Walk

def walk (visited : List ItemId) : Nat → List ItemId → Walk
  | 0, _ => .stopped visited
  | _ + 1, [] => .ended visited
  | levels + 1, frontier =>
    match level config find? classes visited [] frontier with
    | .found visited => .found visited
    | .next visited next => walk visited levels next

def isSubclass (start : ItemId) : Answer Bool :=
  (walk config find? classes [] config.typeCheckMaxDepth [start]).answer

/-- Whether one of the classes is found on the levels from any depth on. Levels are counted in 32 bits, and there is no
answer if the last number of all has been counted. From the first level on that takes more classes than a store can
hold (`isSubclassFrom?_one`). -/
def isSubclassFrom? (start : ItemId) (depth : Nat) : Option (Answer Bool) :=
  let w := walk config find? classes [] (config.typeCheckMaxDepth + 1 - depth) [start]
  if depth ≤ config.typeCheckMaxDepth ∧ UInt32.size ≤ config.typeCheckMaxDepth + 1 ∧ w.isStopped then none
  else some w.answer

def anySubclass (known : Metadata) : List ItemId → Answer Bool
  | [] => ⟨false, known⟩
  | c :: rest =>
    let answer := isSubclass config find? classes c
    let known := known.combine answer.metadata
    if answer.value then ⟨true, known⟩ else anySubclass known rest

def byWalk (e : Entity) (relations : List PropertyId) : Answer Bool :=
  let direct := e.relatedItems relations
  if direct.any (· ∈ classes) then { value := true }
  else anySubclass config find? classes .blank direct

def ask (graph : GraphQuery) (id : EntityId) (known : Metadata) : List Bool → Membership
  | [] => .known ⟨false, known⟩
  | instance_ :: rest =>
    match graph.hasType id classes instance_ with
    | .error e => failed e
    | .ok answer =>
      let known := known.combine answer.metadata
      if answer.value then .known ⟨true, known⟩ else ask graph id known rest

def questions : Relation → List Bool
  | .instance_ => [true]
  | .subclass => [false]
  | .instanceOrSubclass => [true, false]

def check (graph : Option GraphQuery) (e : Entity) (relation : Relation) : Membership :=
  if config.useGraphQueryForTypes then
    match graph with
    | none => unavailable
    | some graph => ask classes graph e.id .blank (questions relation)
  else known (byWalk config find? classes e (relation.properties config))

end Membership

end EntityAudit
