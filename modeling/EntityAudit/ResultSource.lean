import EntityAudit.Auditor
import EntityAudit.Cache

/-!
Where results come from: a check at every request, or a cache in front of it. The cache serves
the results of whole entities as long as all entities that they depend on have their recorded
revisions. Filling it takes three steps, between which entities may change: checking the entity,
reading the revisions, and storing the entry.
-/

namespace EntityAudit

structure Query where
  entities : List EntityId := []
  claims : List String := []
  constraints : Option (List String) := none
  statuses : List Status := Status.all

abbrev ResultSource := Query → ResultSet

def Auditor.source (a : Auditor) : ResultSource := fun q =>
  let results := q.entities.flatMap (a.entityResults · none q.constraints) ++
    q.claims.flatMap (a.claimResults · q.constraints)
  .ofResults (results.filter fun r => q.statuses.contains r.status)

structure CachedSource where
  config : Config
  inner : ResultSource
  revisions : List EntityId → SortedMap EntityId Nat
  now : Moment

namespace CachedSource

variable (s : CachedSource)

def answers (q : Query) : Bool :=
  q.constraints.isNone && q.statuses.all (s.config.cachedStatuses.contains ·)

def isFresh (e : CacheEntry) : Bool :=
  e.future.all s.now.isBefore && s.revisions e.revisions.keys == e.revisions

def isDoubtful (r : Result) : Bool := s.config.possiblyStaleTypes.contains r.constraint.type

def served (id : EntityId) (e : CacheEntry) : List Result :=
  let age := Metadata.ofAge (s.now.secondsSince e.storedAt)
  let kept := (e.results.filter fun r => !s.isDoubtful r).map (·.withMetadata age)
  let doubtful := (e.results.filter s.isDoubtful).map (·.constraint.id)
  if doubtful.isEmpty then kept
  else kept ++ (s.inner {
    entities := [id]
    constraints := some (SortedMap.setOf doubtful).keys
    statuses := s.config.cachedStatuses }).results

def checked (id : EntityId) : ResultSet :=
  s.inner { entities := [id], statuses := s.config.cachedStatuses }

def stamp (id : EntityId) (r : ResultSet) : SortedMap EntityId Nat :=
  s.revisions (r.metadata.entities.keys ++ [id])

/-- What the third step stores; nothing if the entity itself has no revision. -/
def entry? (id : EntityId) (r : ResultSet) (revisions : SortedMap EntityId Nat) :
    Option CacheEntry :=
  if revisions.contains id then
    some { results := r.results, revisions, future := r.metadata.future, storedAt := s.now }
  else none

variable {σ : Type} [CacheStore σ]

def hit? (cache : σ) (id : EntityId) : Option CacheEntry :=
  match CacheStore.get cache id with
  | .ok (some e) => if s.isFresh e then some e else none
  | _ => none

def write (cache : σ) (id : EntityId) (entry : Option CacheEntry) : σ :=
  match entry with
  | none => cache
  | some e =>
    match CacheStore.set cache id e with
    | .ok cache => cache
    | .error _ => cache

def entityResults (cache : σ) (id : EntityId) : List Result × σ :=
  match s.hit? cache id with
  | some e => (s.served id e, cache)
  | none =>
    let r := s.checked id
    (r.results, write cache id (s.entry? id r (s.stamp id r)))

def entitiesResults (cache : σ) : List EntityId → List Result × σ
  | [] => ([], cache)
  | id :: ids =>
    let (results, cache) := s.entityResults cache id
    let (more, cache) := entitiesResults cache ids
    (results ++ more, cache)

def results (cache : σ) (q : Query) : ResultSet × σ :=
  if s.answers q then
    let (ofEntities, cache) := s.entitiesResults cache q.entities
    let ofClaims := if q.claims.isEmpty then [] else
      (s.inner { claims := q.claims, statuses := q.statuses }).results
    (.ofResults ((ofEntities ++ ofClaims).filter fun r => q.statuses.contains r.status), cache)
  else (s.inner q, cache)

end CachedSource

end EntityAudit
