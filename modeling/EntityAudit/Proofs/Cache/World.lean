import EntityAudit.Proofs.Cache.Request
import EntityAudit.Proofs.Outcome
import EntityAudit.Proofs.Store.Revision
import EntityAudit.Session

/-!
Runs of a source with a cache: saves, deletions, the clock, other pages, and requests. What each of
them does to the store and to the cache.
-/

namespace EntityAudit

structure Scene where
  store : Store
  pages : Option PageLookup := none
  now : Moment

structure World (σ : Type) extends Scene where
  cache : σ

inductive Event where
  | save (e : Entity)
  | delete (id : EntityId)
  | tick (now : Moment)
  | turn (pages : Option PageLookup)
  | ask (q : Query)

structure Deployment where
  config : Config
  constraints : ConstraintSource
  graph : Store → Option GraphQuery

namespace Deployment

variable (d : Deployment)

def services (s : Scene) : Services where
  config := d.config
  find? := s.store.find?
  graph := d.graph s.store
  pages := s.pages
  now := s.now

def auditor (s : Scene) : Auditor := Auditor.ofServices (d.services s) d.constraints

def source (s : Scene) : CachedSource where
  config := d.config
  inner := (d.auditor s).source
  revisions := s.store.revisions
  now := s.now

lemma source_eq_session (session : Session) (hconstraints : session.constraints = d.constraints)
    (hconfig : session.config = d.config) (hgraph : session.graphQuery? = d.graph session.store) :
    session.cachedSource = d.source ⟨session.store, session.pageLookup?, session.now⟩ := by
  simp only [Session.cachedSource, Session.auditor, Session.services, source, auditor, services,
    hconstraints, hconfig, hgraph]
  rfl

variable {σ : Type} [CacheStore σ]

def answer (w : World σ) (q : Query) : ResultSet := ((d.source w.toScene).results w.cache q).1

def step (w : World σ) : Event → World σ
  | .save e => { w with store := (w.store.save e).1 }
  | .delete id =>
    match w.store.delete id with
    | .ok store => { w with store }
    | .error _ => w
  | .tick now => { w with now }
  | .turn pages => { w with pages }
  | .ask q => { w with cache := ((d.source w.toScene).results w.cache q).2 }

inductive Run (P : Scene → Event → Prop) (u : World σ) : World σ → Prop
  | refl : Run P u u
  | step {w : World σ} {event : Event} : Run P u w → P w.toScene event → Run P u (d.step w event)

/-- An entry for an identifier that may have been filled in an earlier world of the run. -/
structure Origin (P : Scene → Event → Prop) (u o w : World σ) (id : EntityId) (e : CacheEntry) :
    Prop where
  before : d.Run P u o
  after : d.Run P o w
  filled : (d.source o.toScene).fill id = some e

end Deployment

def Event.KeepsAbsent (s : Scene) : Event → Prop
  | save e => s.store.entities.contains e.id = true
  | _ => True

namespace Deployment

variable {d : Deployment} {σ : Type} [CacheStore σ] {P : Scene → Event → Prop} {u v w : World σ}

lemma Run.trans (huv : d.Run P u v) (hvw : d.Run P v w) : d.Run P u w := by
  induction hvw with
  | refl => exact huv
  | step _ hp ih => exact ih.step hp

lemma step_delete (d : Deployment) (w : World σ) (id : EntityId) :
    d.step w (.delete id) = w ∨
      ∃ store, w.store.delete id = .ok store ∧ d.step w (.delete id) = { w with store } := by
  cases hd : w.store.delete id with
  | ok store =>
    refine .inr ⟨store, rfl, ?_⟩
    simp only [step, hd]
  | error =>
    refine .inl ?_
    simp only [step, hd]

lemma step_wellRevised (h : w.store.WellRevised) (event : Event) :
    (d.step w event).store.WellRevised := by
  cases event with
  | save e => exact h.save e
  | delete id =>
    rcases step_delete d w id with hsame | ⟨store, hd, hstep⟩
    · rwa [hsame]
    · rw [hstep]
      exact h.delete hd
  | tick => exact h
  | turn => exact h
  | ask => exact h

lemma step_precedes (w : World σ) (event : Event) : w.store.Precedes (d.step w event).store := by
  cases event with
  | save e => exact Store.precedes_save _ e
  | delete id =>
    rcases step_delete d w id with hsame | ⟨store, hd, hstep⟩
    · rw [hsame]
      exact .refl _
    · rw [hstep]
      exact Store.precedes_delete hd
  | tick => exact .refl _
  | turn => exact .refl _
  | ask => exact .refl _

lemma step_absent {event : Event} (h : event.KeepsAbsent w.toScene) {id : EntityId}
    (hid : w.store.revision? id = none) : (d.step w event).store.revision? id = none := by
  rw [Store.revision?, Option.map_eq_none_iff] at hid ⊢
  cases event with
  | save e =>
    change (w.store.save e).1.entities.get? id = none
    rw [Store.get?_save, if_neg, hid]
    rintro rfl
    obtain ⟨x, hx⟩ := SortedMap.contains_iff_get?.mp h
    rw [hid] at hx
    cases hx
  | delete a =>
    rcases step_delete d w a with hsame | ⟨store, hd, hstep⟩
    · rw [hsame, hid]
    · rw [hstep, Store.get?_delete hd, hid, ite_self]
  | tick => exact hid
  | turn => exact hid
  | ask => exact hid

lemma get_cache_step [LawfulCache σ] {event : Event} {id : EntityId} {e : CacheEntry}
    (h : CacheStore.get (d.step w event).cache id = .ok (some e)) :
    CacheStore.get w.cache id = .ok (some e) ∨ (d.source w.toScene).fill id = some e := by
  cases event with
  | ask q =>
    rcases (d.source w.toScene).extends_results w.cache q id with hold | ⟨-, e', hfill, hnew⟩
    · exact .inl (hold.symm.trans h)
    · obtain rfl := Option.some.inj (Except.ok.inj (hnew.symm.trans h))
      exact .inr hfill
  | save => exact .inl h
  | delete a =>
    rcases step_delete d w a with hsame | ⟨store, -, hstep⟩
    · rw [hsame] at h
      exact .inl h
    · rw [hstep] at h
      exact .inl h
  | tick => exact .inl h
  | turn => exact .inl h

end Deployment

namespace Sample

def marriages (config : Config) (weights : List ItemId) : Deployment where
  config := config
  constraints p := if p = spouse then [symmetry weights] else []
  graph _ := none

def registry (entities : List Entity) : World EntryCache where
  store := entities.foldl (fun s e => (s.save e).1) Store.empty
  now := ⟨0, 0⟩
  cache := EntryCache.empty

def onFirst (config : Config) : Query where
  entities := [.item ⟨1⟩]
  statuses := config.cachedStatuses

variable {config : Config} {weights : List ItemId} {p : PropertyId} {c : Constraint}

lemma eq_symmetry (h : c ∈ (marriages config weights).constraints p) : c = symmetry weights := by
  simp only [marriages] at h
  split at h
  · exact List.mem_singleton.mp h
  · cases h

lemma reachable_registry (entities : List Entity) : (registry entities).store.Reachable := by
  suffices h : ∀ s : Store, s.Reachable → (entities.foldl (fun s e => (s.save e).1) s).Reachable from
    h _ .empty
  induction entities with
  | nil => exact fun _ hs => hs
  | cons e entities ih => exact fun s hs => ih _ (hs.save e)

end Sample

end EntityAudit
