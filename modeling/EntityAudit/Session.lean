import EntityAudit.Dump
import EntityAudit.ResultSource
import EntityAudit.ResultTree
import EntityAudit.Site
import EntityAudit.SlowCheck

/-!
A session: a store of entities with the constraints, services, cache and clock that belong to it.
Checks look at the session as it is at the moment of the request; only a request through the
cache changes it.
-/

namespace EntityAudit

inductive SessionCache where
  | memory (c : MemoryCache)
  | file (c : DatabaseCache TextDatabase)
  | unreadable (c : MemoryCache)
  | unwritable (c : MemoryCache)

namespace SessionCache

instance : CacheStore SessionCache where
  get
    | memory c, id => CacheStore.get c id
    | file c, id => CacheStore.get c id
    | unreadable _, _ => .error (.database "unreadable")
    | unwritable c, id => CacheStore.get c id
  set
    | memory c, id, e => (CacheStore.set c id e).map memory
    | file c, id, e => (CacheStore.set c id e).map file
    | unreadable c, id, e => (CacheStore.set c id e).map unreadable
    | unwritable _, _, _ => .error (.database "read only")
  delete
    | memory c, id => (CacheStore.delete c id).map memory
    | file c, id => (CacheStore.delete c id).map file
    | unreadable c, id => (CacheStore.delete c id).map unreadable
    | unwritable c, id => (CacheStore.delete c id).map unwritable

def reopen? (version : Option UInt32) : SessionCache → Option (Except StorageError SessionCache)
  | file c => some do
    let d ← match version with
      | some version => Database.setVersion c.database version
      | none => .ok c.database
    return file (← DatabaseCache.reopen ⟨d⟩)
  | _ => none

end SessionCache

inductive GraphAccess where
  | absent
  | stored
  | failing (e : QueryError)

inductive PageAccess where
  | absent
  | listed (pages : PageList)
  | site (s : Site)
  | failing (e : QueryError)

structure Session where
  config : Config := {}
  store : Store := .empty
  table : ConstraintTable := SortedMap.empty
  readsConstraints : Bool := false
  graph : GraphAccess := .stored
  pages : PageAccess := .absent
  cache : SessionCache := .memory .empty
  now : Moment

namespace Session

variable (s : Session)

def withDump (d : Dump) : Session :=
  { s with store := d.loadInto s.store, table := d.constraints s.config }

def find? (id : EntityId) : Option Entity := s.store.find? id

def graphQuery? : Option GraphQuery :=
  match s.graph with
  | .absent => none
  | .stored => some (GraphQuery.ofStore s.config s.store)
  | .failing e => some (GraphQuery.failing e)

def pageLookup? : Option PageLookup :=
  match s.pages with
  | .absent => none
  | .listed pages => some pages.lookup
  | .site site => some site.unreachable
  | .failing e => some fun _ => .error e

def services : Services where
  config := s.config
  find? := s.find?
  graph := s.graphQuery?
  pages := s.pageLookup?
  now := s.now

def constraints : ConstraintSource :=
  if s.readsConstraints then ConstraintSource.ofEntities s.config s.find? else s.table.of

def auditor : Auditor := Auditor.ofServices s.services s.constraints

def results (q : Query) : ResultSet := s.auditor.source q

def cachedSource : CachedSource where
  config := s.config
  inner := s.auditor.source
  revisions := s.store.revisions
  now := s.now

def cachedResults (q : Query) : ResultSet × Session :=
  let (r, cache) := s.cachedSource.results s.cache q
  (r, { s with cache })

def tree (q : Query) : ResultTree := .ofResults (s.results q).results

def subclass? (start : ItemId) (classes : List ItemId) (depth : Nat) : Option (Answer Bool) :=
  Membership.isSubclassFrom? s.config s.find? classes start depth

def membership (e : Entity) (classes : List ItemId) (relation : Relation) : Membership :=
  Membership.check s.config s.find? classes s.graphQuery? e relation

def importEntity (e : Entity) : Session × Nat :=
  ({ s with table := ConstraintTable.importEntity s.config s.table e },
    (Constraint.ofEntity s.config e).length)

def addPage? (pageNamespace title : String) : Option Session :=
  match s.pages with
  | .listed pages => some { s with pages := .listed (pages.add pageNamespace title) }
  | _ => none

end Session

end EntityAudit
