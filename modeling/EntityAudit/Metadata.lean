import EntityAudit.Id
import EntityAudit.Json.Record
import EntityAudit.Moment

/-!
What is known about a result besides its verdict: its age if it comes from a cache, the entities
it was derived from, and the moment up to which it holds. Merging keeps the greatest age, all
entities and the earliest moment.
-/

namespace EntityAudit

structure Metadata where
  maxAge : Option Nat := none
  entities : SortedSet EntityId := SortedMap.empty
  future : Option Moment := none
  deriving DecidableEq

namespace Metadata

def greatest (a b : Option Nat) : Option Nat :=
  match a, b with
  | some a, some b => some (max a b)
  | some a, none => some a
  | none, b => b

def earliest (a b : Option Moment) : Option Moment :=
  match a, b with
  | some a, some b => some (a.earlier b)
  | some a, none => some a
  | none, b => b

def blank : Metadata := {}

instance : Inhabited Metadata := ⟨blank⟩

def ofEntity (id : EntityId) : Metadata := { entities := SortedMap.setOf [id] }

def ofEntities (ids : List EntityId) : Metadata := { entities := SortedMap.setOf ids }

def ofFuture (m : Moment) : Metadata := { future := some m }

def ofAge (seconds : Nat) : Metadata := { maxAge := some seconds }

def combine (a b : Metadata) : Metadata where
  maxAge := greatest a.maxAge b.maxAge
  entities := a.entities.union b.entities
  future := earliest a.future b.future

def merge (l : List Metadata) : Metadata := l.foldl combine blank

def isCached (m : Metadata) : Bool := m.maxAge.isSome

def age (m : Metadata) : Nat := m.maxAge.getD 0

def toJson (m : Metadata) : Json :=
  .object [
    ("caching", .record [("max_age", m.maxAge.map fun n => .integer n)]),
    ("dependency", .record [
      ("entity_ids", if m.entities.isEmpty then none
        else some (.array (m.entities.keys.map fun id => .text id.toString))),
      ("future_time", m.future.map fun t => .text t.toString)])]

def ofJson? (j : Json) : Option Metadata := do
  let r ← j.record? ["caching", "dependency"]
  let maxAge ← r.defaulting? "caching" none fun j => do
    (← j.record? ["max_age"]).optional? "max_age" (Json.natural? UInt64.size)
  let (entities, future) ← r.defaulting? "dependency" (SortedMap.empty, none) fun j => do
    let r ← j.record? ["entity_ids", "future_time"]
    let ids ← r.defaulting? "entity_ids" [] (Json.list? (Json.parsed? EntityId.ofString?))
    return (SortedMap.setOf ids, ← r.optional? "future_time" (Json.parsed? Moment.ofString?))
  return { maxAge, entities, future }

end Metadata

end EntityAudit
