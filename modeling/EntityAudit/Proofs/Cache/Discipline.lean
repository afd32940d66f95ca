import EntityAudit.Proofs.Cache.World
import EntityAudit.Proofs.Database
import EntityAudit.Proofs.Id
import EntityAudit.Proofs.Pairs

/-!
What a request may write. A source with a cache leaves the cache alone at requests that the cache cannot
answer. Otherwise it writes entries of requested entities that it had no fresh entry for, and such an entry
is complete: it does not depend on the request (`results_discipline`).
-/

namespace EntityAudit

class TextCache (σ : Type) [CacheStore σ] where
  text? : σ → EntityId → Option String
  text?_set : ∀ {c c' : σ} {id : EntityId} {e : CacheEntry}, CacheStore.set c id e = .ok c' →
    ∀ a, text? c' a = if a = id then some e.text else text? c a
  get_set : ∀ {c c' : σ} {id : EntityId} {e : CacheEntry}, CacheStore.set c id e = .ok c' →
    ∀ a ≠ id, CacheStore.get c' a = CacheStore.get c a

namespace TextCache

instance : TextCache MemoryCache where
  text? c := c.entries.get?
  text?_set := by
    intro c c' id e h a
    obtain rfl := Except.ok.inj h
    simp only [SortedMap.get?_insert, eq_comm (a := id)]
  get_set := by
    intro c c' id e h a ha
    obtain rfl := Except.ok.inj h
    simp only [CacheStore.get, SortedMap.get?_insert, if_neg (Ne.symm ha)]

instance {δ : Type} [Database δ] [DurableDatabase δ] : TextCache (DatabaseCache δ) where
  text? c id := DurableDatabase.texts c.database id.toString
  text?_set := by
    intro c c' id e h a
    obtain ⟨d, hinsert, -, htexts⟩ := DurableDatabase.insert c.database id.toString e.text
    obtain rfl := Except.ok.inj ((DatabaseCache.set_of_insert hinsert).symm.trans h)
    rw [htexts, Function.update_apply]
    simp only [EntityId.toString_injective.eq_iff]
  get_set := by
    intro c c' id e h a ha
    obtain ⟨d, hinsert, -, htexts⟩ := DurableDatabase.insert c.database id.toString e.text
    obtain rfl := Except.ok.inj ((DatabaseCache.set_of_insert hinsert).symm.trans h)
    have hid : a.toString ≠ id.toString := fun h => ha (EntityId.toString_injective h)
    rw [DatabaseCache.get_eq, DatabaseCache.get_eq, htexts, Function.update_of_ne hid]

def ofSession : SessionCache → EntityId → Option String
  | .memory c => text? c
  | .file c => text? c
  | .unreadable c => text? c
  | .unwritable c => text? c

instance : TextCache SessionCache where
  text? := ofSession
  text?_set := by
    intro c c' id e h
    cases c with
    | memory c =>
      obtain rfl := Except.ok.inj h
      exact text?_set rfl
    | file c =>
      obtain rfl := Except.ok.inj h
      exact text?_set (σ := DatabaseCache TextDatabase) rfl
    | unreadable c =>
      obtain rfl := Except.ok.inj h
      exact text?_set rfl
    | unwritable c => cases h
  get_set := by
    intro c c' id e h
    cases c with
    | memory c =>
      obtain rfl := Except.ok.inj h
      exact get_set (σ := MemoryCache) rfl
    | file c =>
      obtain rfl := Except.ok.inj h
      exact get_set (σ := DatabaseCache TextDatabase) rfl
    | unreadable c =>
      obtain rfl := Except.ok.inj h
      exact fun _ _ => rfl
    | unwritable c => cases h

end TextCache

def Auditor.cached (a : Auditor) (config : Config) (store : Store) (now : Moment) : CachedSource where
  config := config
  inner := a.source
  revisions := store.revisions
  now := now

structure CacheEntry.IsComplete (e : CacheEntry) (a : Auditor) (config : Config) (id : EntityId) : Prop where
  results : e.results = (a.entityResults id none none).filter fun r => config.cachedStatuses.contains r.status
  entity : ∀ r ∈ e.results, r.cursor.entity = id

lemma Auditor.entity_of_mem_pairs {a : Auditor} {id : EntityId} {p : Pair} (h : p ∈ a.pairs id)
    (hfind : ∀ e, a.services.find? id = some e → e.id = id) : p.1.entity.id = id := by
  unfold pairs at h
  cases he : a.services.find? id with
  | none =>
    rw [he] at h
    cases h
  | some e =>
    rw [he] at h
    obtain ⟨s, -, hp⟩ := List.mem_flatMap.mp h
    obtain ⟨context, hcontext, hc⟩ := List.mem_flatMap.mp hp
    obtain ⟨c, -, rfl⟩ := List.mem_map.mp hc
    rw [Context.entity_of_mem hcontext]
    exact hfind e he

namespace CachedSource

variable {σ : Type} [CacheStore σ]

inductive Lacks (s : CachedSource) (cache : σ) (id : EntityId) : Prop
  | missing : CacheStore.get cache id = .ok none → Lacks s cache id
  | unreadable {error : StorageError} : CacheStore.get cache id = .error error → Lacks s cache id
  | stale {e : CacheEntry} : CacheStore.get cache id = .ok (some e) → s.isFresh e = false → Lacks s cache id

lemma lacks_of_hit?_eq_none {s : CachedSource} {cache : σ} {id : EntityId} (h : s.hit? cache id = none) :
    s.Lacks cache id := by
  cases hget : CacheStore.get cache id with
  | error => exact .unreadable hget
  | ok o =>
    cases o with
    | none => exact .missing hget
    | some e =>
      refine .stale hget (Bool.eq_false_iff.mpr fun hfresh => ?_)
      rw [hit?_eq_some.mpr ⟨hget, hfresh⟩] at h
      cases h

variable [TextCache σ]

open TextCache

def Writes (s : CachedSource) (ids : List EntityId) (cache later : σ) (a : EntityId) : Prop :=
  (text? later a = text? cache a ∧ CacheStore.get later a = CacheStore.get cache a) ∨
    (a ∈ ids ∧ s.hit? cache a = none ∧ ∃ e, s.fill a = some e ∧ text? later a = some e.text)

variable {s : CachedSource} {ids : List EntityId} {cache later : σ} {a : EntityId}

lemma writes_entityResults (s : CachedSource) (cache : σ) (id a : EntityId) :
    s.Writes [id] cache (s.entityResults cache id).2 a := by
  unfold entityResults
  cases hhit : s.hit? cache id with
  | some e => exact .inl ⟨rfl, rfl⟩
  | none =>
    change s.Writes [id] cache (write cache id (s.fill id)) a
    cases hfill : s.fill id with
    | none => exact .inl ⟨rfl, rfl⟩
    | some e =>
      simp only [write]
      cases hset : CacheStore.set cache id e with
      | error => exact .inl ⟨rfl, rfl⟩
      | ok cache' =>
        have htext := text?_set hset a
        by_cases ha : a = id
        · subst ha
          rw [if_pos rfl] at htext
          exact .inr ⟨List.mem_singleton_self a, hhit, e, hfill, htext⟩
        · rw [if_neg ha] at htext
          exact .inl ⟨htext, get_set hset a ha⟩

lemma Writes.trans {is js : List EntityId} {mid : σ} (h : s.Writes is cache mid a)
    (h' : s.Writes js mid later a) : s.Writes (is ++ js) cache later a := by
  rcases h' with ⟨htext', hget'⟩ | ⟨ha', hmiss', e', hfill', htext'⟩
  · rcases h with ⟨htext, hget⟩ | ⟨ha, hmiss, e, hfill, htext⟩
    · exact .inl ⟨htext'.trans htext, hget'.trans hget⟩
    · exact .inr ⟨List.mem_append_left js ha, hmiss, e, hfill, htext'.trans htext⟩
  · refine .inr ⟨List.mem_append_right is ha', ?_, e', hfill', htext'⟩
    rcases h with ⟨-, hget⟩ | ⟨-, hmiss, -⟩
    · rwa [hit?_congr hget] at hmiss'
    · exact hmiss

lemma writes_entitiesResults (s : CachedSource) (cache : σ) (ids : List EntityId) (a : EntityId) :
    s.Writes ids cache (s.entitiesResults cache ids).2 a := by
  induction ids generalizing cache with
  | nil => exact .inl ⟨rfl, rfl⟩
  | cons id ids ih =>
    exact (writes_entityResults s cache id a).trans (ih (s.entityResults cache id).2)

lemma writes_results (s : CachedSource) (cache : σ) (q : Query) (a : EntityId) :
    s.Writes q.entities cache (s.results cache q).2 a := by
  unfold results
  split
  · exact writes_entitiesResults s cache q.entities a
  · exact .inl ⟨rfl, rfl⟩

end CachedSource

namespace Auditor

variable {a : Auditor} {config : Config} {store : Store} {now : Moment} {id : EntityId} {e : CacheEntry}

lemma complete_of_fill (hstore : store.Reachable) (hfind : a.services.find? = store.find?)
    (h : (a.cached config store now).fill id = some e) :
    store.revision? id ≠ none ∧ e.IsComplete a config id := by
  unfold CachedSource.fill CachedSource.entry? at h
  split at h
  · rename_i hcontains
    obtain rfl := Option.some.inj h
    have hresults := a.source_entity { entities := [id], statuses := config.cachedStatuses } id rfl rfl
    simp only [Option.all_none, List.filter_true, ← entityResults_all] at hresults
    refine ⟨?_, hresults, ?_⟩
    · obtain ⟨n, hn⟩ := SortedMap.contains_iff_get?.mp hcontains
      intro hnone
      have hget := store.get?_revisions
        (((a.cached config store now).checked id).metadata.entities.keys ++ [id]) id
      rw [hnone, ite_self] at hget
      cases hget.symm.trans hn
    · intro r hr
      change r ∈ (a.source { entities := [id], statuses := config.cachedStatuses }).results at hr
      rw [hresults, entityResults_all] at hr
      obtain ⟨p, hp, rfl⟩ := List.mem_map.mp (List.mem_filter.mp hr).1
      exact entity_of_mem_pairs hp fun e he => hstore.id_of_find? (hfind ▸ he)
  · cases h

variable {σ : Type} [CacheStore σ]

lemma results_bypassed (a : Auditor) (config : Config) (store : Store) (now : Moment) (cache : σ) {q : Query}
    (h : q.constraints ≠ none ∨ (∃ status ∈ q.statuses, status ∉ config.cachedStatuses) ∨ q.entities = []) :
    (a.cached config store now).results cache q = (a.source q, cache) := by
  unfold CachedSource.results
  split
  · rename_i hanswers
    obtain ⟨hconstraints, hstatuses⟩ := Bool.and_eq_true_iff.mp hanswers
    have hnone : q.constraints = none := Option.isNone_iff_eq_none.mp hconstraints
    have hentities : q.entities = [] := by
      rcases h with hsome | ⟨status, hstatus, hnot⟩ | hentities
      · exact absurd hnone hsome
      · exact absurd (List.contains_iff_mem.mp (List.all_eq_true.mp hstatuses status hstatus)) hnot
      · exact hentities
    obtain ⟨entities, claims, constraints, statuses⟩ := q
    subst hentities hnone
    cases claims with
    | nil => rfl
    | cons guid claims =>
      simp [CachedSource.entitiesResults, cached, source, ResultSet.ofResults, List.filter_filter]
  · rfl

variable [TextCache σ]

open TextCache in
/-- A request changes the cache only if the cache can answer it, and then only at entities asked for that had
no fresh entry and have a revision. What it writes there is complete. -/
theorem results_discipline (a : Auditor) (config : Config) {store : Store} (now : Moment)
    (hstore : store.Reachable) (hfind : a.services.find? = store.find?) (cache : σ) (q : Query) :
    let s := a.cached config store now
    (q.constraints ≠ none ∨ (∃ status ∈ q.statuses, status ∉ config.cachedStatuses) ∨ q.entities = [] →
      s.results cache q = (a.source q, cache)) ∧
    ∀ id, text? (s.results cache q).2 id = text? cache id ∨
      id ∈ q.entities ∧ s.Lacks cache id ∧ store.revision? id ≠ none ∧
        ∃ e : CacheEntry, text? (s.results cache q).2 id = some e.text ∧ e.IsComplete a config id := by
  intro s
  refine ⟨results_bypassed a config store now cache, fun id => ?_⟩
  rcases s.writes_results cache q id with ⟨htext, -⟩ | ⟨hid, hmiss, e, hfill, htext⟩
  · exact .inl htext
  · obtain ⟨hrevision, hcomplete⟩ := complete_of_fill hstore hfind hfill
    exact .inr ⟨hid, CachedSource.lacks_of_hit?_eq_none hmiss, hrevision, e, htext, hcomplete⟩

theorem results_discipline_of_marriage :
    let w := Sample.registry [Sample.married ⟨1⟩ ⟨2⟩, .empty (.item ⟨2⟩)]
    let a := (Sample.marriages {} []).auditor w.toScene
    let q : Query := { entities := [.item ⟨9⟩, .item ⟨1⟩, .item ⟨9⟩], statuses := [.violation] }
    ∃ later, ((a.cached {} w.store w.now).results MemoryCache.empty q).2 = later ∧
      (∃ e : CacheEntry, TextCache.text? later (.item ⟨1⟩) = some e.text ∧
        e.results.map (·.status) = [.warning]) ∧
      TextCache.text? later (.item ⟨9⟩) = TextCache.text? MemoryCache.empty (.item ⟨9⟩) ∧
      ((a.cached {} w.store w.now).results later { q with constraints := some ["P26$1"] }).2 = later := by
  intro w a q
  have hstore : w.store.Reachable := Sample.reachable_registry _
  obtain ⟨-, hstored⟩ := results_discipline a {} w.now hstore rfl MemoryCache.empty q
  have hchanged : TextCache.text? ((a.cached {} w.store w.now).results MemoryCache.empty q).2 (.item ⟨1⟩) ≠
      TextCache.text? MemoryCache.empty (.item ⟨1⟩) := by decide
  have hunknown : w.store.revision? (.item ⟨9⟩) = none := by decide
  have hbypassed (later : MemoryCache) := (results_discipline a {} w.now hstore rfl later
    { q with constraints := some ["P26$1"] }).1 (.inl (Option.some_ne_none _))
  refine ⟨_, rfl, ?_, ?_, ?_⟩
  · obtain ⟨-, -, -, e, htext, hcomplete⟩ := (hstored (.item ⟨1⟩)).resolve_left hchanged
    refine ⟨e, htext, ?_⟩
    rw [hcomplete.results]
    decide
  · exact (hstored (.item ⟨9⟩)).resolve_right fun h => h.2.2.1 hunknown
  · rw [hbypassed]

end Auditor

namespace Deployment

variable {d : Deployment} {σ : Type} [CacheStore σ] [TextCache σ] {P : Scene → Event → Prop} {u w : World σ}

open TextCache

omit [TextCache σ] in
lemma Run.reachable (h : d.Run P u w) (hu : u.store.Reachable) : w.store.Reachable := by
  induction h with
  | refl => exact hu
  | @step w event _ _ ih =>
    cases event with
    | save e => exact ih.save e
    | delete id =>
      rcases step_delete d w id with hsame | ⟨store, hd, hstep⟩
      · rwa [hsame]
      · rw [hstep]
        exact ih.delete hd
    | tick => exact ih
    | turn => exact ih
    | ask => exact ih

lemma text?_step (d : Deployment) (hw : w.store.Reachable) (event : Event) (id : EntityId) :
    text? (d.step w event).cache id = text? w.cache id ∨
      ∃ e : CacheEntry, text? (d.step w event).cache id = some e.text ∧
        e.IsComplete (d.auditor w.toScene) d.config id := by
  cases event with
  | ask q =>
    rcases (d.source w.toScene).writes_results w.cache q id with ⟨htext, -⟩ | ⟨-, -, e, hfill, htext⟩
    · exact .inl htext
    · have hfilled : ((d.auditor w.toScene).cached d.config w.store w.now).fill id = some e := hfill
      exact .inr ⟨e, htext, (Auditor.complete_of_fill hw rfl hfilled).2⟩
  | save => exact .inl rfl
  | delete a =>
    rcases step_delete d w a with hsame | ⟨store, -, hstep⟩
    · rw [hsame]
      exact .inl rfl
    · rw [hstep]
      exact .inl rfl
  | tick => exact .inl rfl
  | turn => exact .inl rfl

theorem complete_of_run (hu : u.store.Reachable) (h : d.Run P u w) (id : EntityId) :
    text? w.cache id = text? u.cache id ∨
      ∃ o : World σ, d.Run P u o ∧ d.Run P o w ∧
        ∃ e : CacheEntry, text? w.cache id = some e.text ∧ e.IsComplete (d.auditor o.toScene) d.config id := by
  induction h with
  | refl => exact .inl rfl
  | @step w event hrun hp ih =>
    rcases text?_step d (hrun.reachable hu) event id with hsame | ⟨e, htext, hcomplete⟩
    · rw [hsame]
      rcases ih with hold | ⟨o, huo, how, hentry⟩
      · exact .inl hold
      · exact .inr ⟨o, huo, how.step hp, hentry⟩
    · exact .inr ⟨w, hrun, .step .refl hp, e, htext, hcomplete⟩

end Deployment

end EntityAudit
