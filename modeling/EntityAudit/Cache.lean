import EntityAudit.Database
import EntityAudit.Result

/-!
Caches of results by entity. An entry is kept as JSON text, with the revisions of all entities
that the results depend on.
-/

namespace EntityAudit

structure CacheEntry where
  results : List Result
  revisions : SortedMap EntityId Nat
  future : Option Moment := none
  storedAt : Moment
  deriving BEq

namespace CacheEntry

def toJson (e : CacheEntry) : Json :=
  .record [
    ("results", some (.array (e.results.map (·.toJson)))),
    ("revisions", some (.object (e.revisions.entries.map fun (id, n) => (id.toString, .integer n)))),
    ("future_time", e.future.map fun m => .text m.toString),
    ("stored_at", some (.text e.storedAt.toString))]

def ofJson? (j : Json) : Option CacheEntry := do
  let r ← j.record? ["results", "revisions", "future_time", "stored_at"]
  return {
    results := ← r.required? "results" (Json.list? Result.ofJson?)
    revisions := ← r.required? "revisions" (Json.map? EntityId.ofString? (Json.natural? UInt64.size))
    future := ← r.optional? "future_time" (Json.parsed? Moment.ofString?)
    storedAt := ← r.required? "stored_at" (Json.parsed? Moment.ofString?) }

def text (e : CacheEntry) : String := e.toJson.compact

def read (s : String) : Except StorageError CacheEntry :=
  match Json.ofString? s with
  | none => .error .malformedJson
  | some j =>
    match ofJson? j with
    | none => .error .unexpectedJson
    | some e => .ok e

end CacheEntry

class CacheStore (σ : Type) where
  get : σ → EntityId → Except StorageError (Option CacheEntry)
  set : σ → EntityId → CacheEntry → Except StorageError σ
  delete : σ → EntityId → Except StorageError σ

def CacheEntry.ofText (text : Option String) : Except StorageError (Option CacheEntry) :=
  match text with
  | none => .ok none
  | some s => (CacheEntry.read s).map some

structure MemoryCache where
  entries : SortedMap EntityId String

namespace MemoryCache

def empty : MemoryCache := ⟨SortedMap.empty⟩

instance : CacheStore MemoryCache where
  get c id := CacheEntry.ofText (c.entries.get? id)
  set c id e := .ok ⟨c.entries.insert id e.text⟩
  delete c id := .ok ⟨c.entries.erase id⟩

end MemoryCache

structure DatabaseCache (δ : Type) where
  database : δ

namespace DatabaseCache

variable {δ : Type} [Database δ]

def currentVersion : UInt32 := 1

def ofDatabase (d : δ) : Except StorageError (DatabaseCache δ) := do
  match ← Database.version? d with
  | none => return ⟨← Database.setVersion d currentVersion⟩
  | some version =>
    if version = currentVersion then return ⟨d⟩
    else return ⟨← Database.setVersion (← Database.clear d) currentVersion⟩

def reopen (c : DatabaseCache δ) : Except StorageError (DatabaseCache δ) := do
  ofDatabase (← Database.reopen c.database)

instance : CacheStore (DatabaseCache δ) where
  get c id := do CacheEntry.ofText (← Database.get? c.database id.toString)
  set c id e := return ⟨← Database.insert c.database id.toString e.text⟩
  delete c id := return ⟨← Database.remove c.database id.toString⟩

end DatabaseCache

end EntityAudit
