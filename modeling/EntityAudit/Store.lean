import EntityAudit.Statement

/-!
A store of entities with revisions. Every save gets a revision of its own, greater than all
earlier ones of any entity. A redirected identifier cannot be loaded, whether or not an entity is
stored under it.
-/

namespace EntityAudit

inductive StorageError where
  | database (reason : String)
  | malformedJson
  | unexpectedJson
  | entityNotFound (id : EntityId)
  | unresolvedRedirect (source target : EntityId)
  | duplicateEntity (id : EntityId)
  | entityAndRedirect (id : EntityId)
  deriving DecidableEq

namespace StorageError

def message : StorageError → String
  | database reason => "Database error: " ++ reason
  | malformedJson => "Serialization error"
  | unexpectedJson => "Serialization error"
  | entityNotFound id => "Entity not found: " ++ id.toString
  | unresolvedRedirect source target =>
    "Unresolved redirect: " ++ source.toString ++ " redirects to " ++ target.toString
  | duplicateEntity id => "Invalid dump: duplicate entity " ++ id.toString
  | entityAndRedirect id => "Invalid dump: " ++ id.toString ++ " is both an entity and a redirect"

end StorageError

structure Stored where
  entity : Entity
  revision : Nat

structure Store where
  entities : SortedMap EntityId Stored
  redirects : SortedMap EntityId EntityId
  lastRevision : Nat

namespace Store

def empty : Store := ⟨SortedMap.empty, SortedMap.empty, 0⟩

def save (s : Store) (e : Entity) : Store × Nat :=
  let revision := s.lastRevision + 1
  ({ s with entities := s.entities.insert e.id ⟨e, revision⟩, lastRevision := revision }, revision)

def addRedirect (s : Store) (source target : EntityId) : Store :=
  { s with redirects := s.redirects.insert source target }

def delete (s : Store) (id : EntityId) : Except StorageError Store :=
  if s.entities.contains id then .ok { s with entities := s.entities.erase id }
  else .error (.entityNotFound id)

def load (s : Store) (id : EntityId) : Except StorageError (Option Entity) :=
  match s.redirects.get? id with
  | some target => .error (.unresolvedRedirect id target)
  | none => .ok ((s.entities.get? id).map (·.entity))

/-- What the checks see: a redirected identifier is as good as a missing one. -/
def find? (s : Store) (id : EntityId) : Option Entity :=
  match s.load id with
  | .ok e => e
  | .error _ => none

def revision? (s : Store) (id : EntityId) : Option Nat := (s.entities.get? id).map (·.revision)

def revisions (s : Store) (ids : List EntityId) : SortedMap EntityId Nat :=
  SortedMap.ofList (ids.filterMap fun id => (s.revision? id).map fun n => (id, n))

def ids (s : Store) : List EntityId := s.entities.keys

theorem mem_ids_of_find? {s : Store} {id : EntityId} {e : Entity} (h : s.find? id = some e) :
    id ∈ s.ids := by
  unfold find? load at h
  split at h
  · rename_i o ho
    split at ho
    · simp at ho
    · subst h
      obtain ⟨stored, hs, -⟩ := Option.map_eq_some_iff.1 (Except.ok.inj ho)
      exact SortedMap.mem_keys_of_get? hs
  · simp at h

end Store

end EntityAudit
