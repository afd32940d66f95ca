import EntityAudit.Proofs.Cache.World

/-!
Constraints that depend on the store, as those that are read from the entities of properties. Each
store has a deployment of its own; the cache is shared by all of them. Every entry of the cache was
filled in a world that the run has passed through. A run with fixed constraints is a case of this.
-/

namespace EntityAudit

structure Wiki where
  config : Config
  constraints : Store → ConstraintSource
  graph : Store → Option GraphQuery

namespace Wiki

def ofEntities (config : Config) (graph : Store → Option GraphQuery) : Wiki where
  config := config
  constraints s := ConstraintSource.ofEntities config s.find?
  graph := graph

def ofDeployment (d : Deployment) : Wiki := ⟨d.config, fun _ => d.constraints, d.graph⟩

variable (k : Wiki)

def deployed (s : Store) : Deployment := ⟨k.config, k.constraints s, k.graph⟩

def auditor (s : Scene) : Auditor := (k.deployed s.store).auditor s

def source (s : Scene) : CachedSource := (k.deployed s.store).source s

lemma source_eq_session (session : Session) (hreads : session.readsConstraints = true)
    (hconfig : session.config = k.config) (hgraph : session.graphQuery? = k.graph session.store)
    (hconstraints : k.constraints session.store =
      ConstraintSource.ofEntities k.config session.store.find?) :
    session.cachedSource = k.source ⟨session.store, session.pageLookup?, session.now⟩ := by
  refine (k.deployed session.store).source_eq_session session ?_ hconfig hgraph
  rw [Session.constraints, if_pos hreads, hconfig]
  exact hconstraints.symm

lemma isDoubtful_deployed (s : Store) (w : Scene) :
    ((k.deployed s).source w).isDoubtful = fun r => k.config.possiblyStaleTypes.contains r.constraint.type :=
  rfl

lemma isFresh_deployed (s : Store) (w : Scene) : ((k.deployed s).source w).isFresh =
    fun e => e.future.all w.now.isBefore && w.store.revisions e.revisions.keys == e.revisions := rfl

variable {σ : Type} [CacheStore σ]

def answer (w : World σ) (q : Query) : ResultSet := (k.deployed w.store).answer w q

def step (w : World σ) (event : Event) : World σ := (k.deployed w.store).step w event

inductive Run (P : Scene → Event → Prop) (u : World σ) : World σ → Prop
  | refl : Run P u u
  | step {w : World σ} {event : Event} : Run P u w → P w.toScene event → Run P u (k.step w event)

structure Origin (P : Scene → Event → Prop) (u o w : World σ) (id : EntityId) (e : CacheEntry) :
    Prop where
  before : k.Run P u o
  after : k.Run P o w
  filled : (k.source o.toScene).fill id = some e

variable {k} {P : Scene → Event → Prop} {u v w o : World σ} {id : EntityId} {e : CacheEntry}

lemma Run.trans (huv : k.Run P u v) (hvw : k.Run P v w) : k.Run P u w := by
  induction hvw with
  | refl => exact huv
  | step _ hp ih => exact ih.step hp

lemma Run.mono {Q : Scene → Event → Prop} (h : k.Run P u w) (hPQ : ∀ s event, P s event → Q s event) :
    k.Run Q u w := by
  induction h with
  | refl => exact .refl
  | step _ hp ih => exact ih.step (hPQ _ _ hp)

lemma Run.wellRevised (h : k.Run P u w) (hu : u.store.WellRevised) : w.store.WellRevised := by
  induction h with
  | refl => exact hu
  | step _ _ ih => exact Deployment.step_wellRevised ih _

lemma Run.precedes (h : k.Run P u w) : u.store.Precedes w.store := by
  induction h with
  | refl => exact .refl _
  | step _ _ ih => exact ih.trans (Deployment.step_precedes _ _)

lemma Run.absent (h : k.Run P u w) (hP : ∀ s event, P s event → event.KeepsAbsent s)
    (hid : u.store.revision? id = none) : w.store.revision? id = none := by
  induction h with
  | refl => exact hid
  | step _ hp ih => exact Deployment.step_absent (hP _ _ hp) ih

lemma Run.origin [LawfulCache σ] (h : k.Run P u w) (hu : ∀ a, CacheStore.get u.cache a = .ok none)
    (he : CacheStore.get w.cache id = .ok (some e)) : ∃ o, k.Origin P u o w id e := by
  induction h with
  | refl =>
    rw [hu] at he
    cases he
  | @step w event hrun hp ih =>
    have hlast : k.Run P w (k.step w event) := .step .refl hp
    rcases Deployment.get_cache_step he with hold | hfill
    · obtain ⟨o, hbefore, hafter, hfilled⟩ := ih hold
      exact ⟨o, hbefore, hafter.trans hlast, hfilled⟩
    · exact ⟨w, hrun, hlast, hfill⟩

lemma origin_of_request [LawfulCache σ] {q : Query} {x : Entity}
    (hempty : ∀ a, CacheStore.get u.cache a = .ok none) (hask : P u.toScene (.ask q))
    (hsave : P (k.step u (.ask q)).toScene (.save x))
    (hget : CacheStore.get (k.step (k.step u (.ask q)) (.save x)).cache id = .ok (some e)) :
    k.Origin P u u (k.step (k.step u (.ask q)) (.save x)) id e := by
  refine ⟨.refl, .step (.step .refl hask) hsave, ?_⟩
  have hasked : CacheStore.get ((k.deployed u.store).step u (.ask q)).cache id = .ok (some e) := hget
  rcases Deployment.get_cache_step hasked with hold | hfill
  · rw [hempty] at hold
    cases hold
  · exact hfill

lemma run_ofDeployment {d : Deployment} : (ofDeployment d).Run P u w ↔ d.Run P u w := by
  constructor
  · intro h
    induction h with
    | refl => exact .refl
    | step _ hp ih => exact .step ih hp
  · intro h
    induction h with
    | refl => exact .refl
    | step _ hp ih => exact .step ih hp

end Wiki

namespace Deployment

variable {d : Deployment} {σ : Type} [CacheStore σ] {P : Scene → Event → Prop} {u w : World σ}

lemma Run.wellRevised (h : d.Run P u w) (hu : u.store.WellRevised) : w.store.WellRevised :=
  (Wiki.run_ofDeployment.mpr h).wellRevised hu

lemma Run.precedes (h : d.Run P u w) : u.store.Precedes w.store :=
  (Wiki.run_ofDeployment.mpr h).precedes

lemma Run.absent (h : d.Run P u w) (hP : ∀ s event, P s event → event.KeepsAbsent s) {id : EntityId}
    (hid : u.store.revision? id = none) : w.store.revision? id = none :=
  (Wiki.run_ofDeployment.mpr h).absent hP hid

lemma Run.origin [LawfulCache σ] (h : d.Run P u w) (hu : ∀ a, CacheStore.get u.cache a = .ok none)
    {id : EntityId} {e : CacheEntry} (he : CacheStore.get w.cache id = .ok (some e)) :
    ∃ o, d.Origin P u o w id e := by
  obtain ⟨o, hbefore, hafter, hfilled⟩ := (Wiki.run_ofDeployment.mpr h).origin hu he
  exact ⟨o, Wiki.run_ofDeployment.mp hbefore, Wiki.run_ofDeployment.mp hafter, hfilled⟩

end Deployment

end EntityAudit
