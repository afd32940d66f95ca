import EntityAudit.Proofs.Cache.Served

/-!
Entries that are filled while entities change. The three steps of filling an entry take place one by
one, and between them there may be other events and the steps of other requests. A fresh entry then
shows all edits since its check but those that came before the revisions were read.
-/

namespace EntityAudit

inductive Filling where
  | checked (id : EntityId) (r : ResultSet)
  | stamped (id : EntityId) (entry : Option CacheEntry)

structure Traffic (σ : Type) where
  world : World σ
  fillings : List Filling

inductive Move where
  | event (event : Event)
  | check (id : EntityId)
  | stamp (n : Nat)
  | write (n : Nat)

namespace Deployment

variable (d : Deployment) {σ : Type} [CacheStore σ]

def move (t : Traffic σ) : Move → Traffic σ
  | .event event => { t with world := d.step t.world event }
  | .check id =>
    { t with fillings := t.fillings ++ [.checked id ((d.source t.world.toScene).checked id)] }
  | .stamp n =>
    match t.fillings[n]? with
    | some (.checked id r) =>
      { t with fillings := t.fillings.set n (.stamped id (d.recorded t.world.toScene id r)) }
    | _ => t
  | .write n =>
    match t.fillings[n]? with
    | some (.stamped id entry) =>
      { world := { t.world with cache := CachedSource.write t.world.cache id entry }
        fillings := t.fillings.eraseIdx n }
    | _ => t

inductive Course (u : Traffic σ) : Traffic σ → Prop
  | refl : Course u u
  | move {t : Traffic σ} (m : Move) : Course u t → Course u (d.move t m)

/-- An entry whose entity was checked in the one traffic and whose revisions were read in the other. -/
structure Fills (u o m t : Traffic σ) (id : EntityId) (e : CacheEntry) : Prop where
  before : d.Course u o
  between : d.Course o m
  after : d.Course m t
  stamped : d.stamped o.world.toScene m.world.toScene id = some e

structure Accounted (u t : Traffic σ) : Prop where
  checked : ∀ id r, .checked id r ∈ t.fillings →
    ∃ o, d.Course u o ∧ d.Course o t ∧ r = (d.source o.world.toScene).checked id
  stamped : ∀ id e, .stamped id (some e) ∈ t.fillings → ∃ o m, d.Fills u o m t id e
  cached : ∀ id e, CacheStore.get t.world.cache id = .ok (some e) → ∃ o m, d.Fills u o m t id e

/-- The entry has those results of a check in the second scene that were stored in the first one, but
for violations that were hidden there and are gone here. Results that need other services may differ. -/
structure Restates (o s : Scene) (id : EntityId) (e : CacheEntry) : Prop where
  results : e.results = (((d.auditor s).pairs id).filter (d.stores o)).map (d.auditor o).outcomeOf
  outcome : ∀ p ∈ (d.auditor s).pairs id, d.stores o p = true →
    p.2.type ≠ d.config.constraintTypes.uniqueValue → p.2.type ≠ d.config.constraintTypes.commonsLink →
    (d.config.useGraphQueryForTypes = true → p.2.type ≠ d.config.constraintTypes.typeOf ∧
      p.2.type ≠ d.config.constraintTypes.valueType) →
    ((d.auditor s).outcomeOf p = (d.auditor o).outcomeOf p ↔
      ((d.auditor o).Hides p.1 p.2 → (d.auditor s).Hides p.1 p.2))

variable {d} {u o m t : Traffic σ} {id : EntityId} {e : CacheEntry}

lemma Course.trans (huo : d.Course u o) (hot : d.Course o t) : d.Course u t := by
  induction hot with
  | refl => exact huo
  | move m _ ih => exact ih.move m

lemma Fills.next (h : d.Fills u o m t id e) (x : Move) : d.Fills u o m (d.move t x) id e :=
  ⟨h.before, h.between, h.after.move x, h.stamped⟩

lemma fillings_stamp {n : Nat} {r : ResultSet} (h : t.fillings[n]? = some (.checked id r)) :
    (d.move t (.stamp n)).fillings[n]? = some (.stamped id (d.recorded t.world.toScene id r)) := by
  have hn := (List.getElem?_eq_some_iff.mp h).1
  simp only [move, h, List.getElem?_set_self hn]

lemma cache_write {n : Nat} {entry : Option CacheEntry} (h : t.fillings[n]? = some (.stamped id entry)) :
    (d.move t (.write n)).world.cache = CachedSource.write t.world.cache id entry := by
  simp only [move, h]

lemma store_move (t : Traffic σ) (x : Move) :
    (d.move t x).world.store = t.world.store ∨ ∃ event, d.move t x = { t with world := d.step t.world event } := by
  cases x with
  | event event => exact .inr ⟨event, rfl⟩
  | check => exact .inl rfl
  | stamp n =>
    refine .inl ?_
    simp only [move]
    split
    · rfl
    · rfl
  | write n =>
    refine .inl ?_
    simp only [move]
    split
    · rfl
    · rfl

lemma Course.wellRevised (h : d.Course u t) (hu : u.world.store.WellRevised) :
    t.world.store.WellRevised := by
  induction h with
  | refl => exact hu
  | @move t x _ ih =>
    rcases store_move (d := d) t x with hstore | ⟨event, hmove⟩
    · rwa [hstore]
    · rw [hmove]
      exact step_wellRevised ih event

lemma Course.precedes (h : d.Course u t) : u.world.store.Precedes t.world.store := by
  induction h with
  | refl => exact .refl _
  | @move t x _ ih =>
    rcases store_move (d := d) t x with hstore | ⟨event, hmove⟩
    · rwa [hstore]
    · rw [hmove]
      exact ih.trans (step_precedes t.world event)

lemma mem_fillings_move {f : Filling} {x : Move} (h : f ∈ (d.move t x).fillings) :
    f ∈ t.fillings ∨ (∃ id, f = .checked id ((d.source t.world.toScene).checked id)) ∨
      ∃ id r, .checked id r ∈ t.fillings ∧ f = .stamped id (d.recorded t.world.toScene id r) := by
  cases x with
  | event => exact .inl h
  | check id =>
    rcases List.mem_append.mp h with hold | hnew
    · exact .inl hold
    · exact .inr (.inl ⟨id, List.mem_singleton.mp hnew⟩)
  | stamp n =>
    simp only [move] at h
    split at h
    · rename_i id r hn
      rcases List.mem_or_eq_of_mem_set h with hold | rfl
      · exact .inl hold
      · exact .inr (.inr ⟨id, r, List.mem_of_getElem? hn, rfl⟩)
    · exact .inl h
  | write n =>
    simp only [move] at h
    split at h
    · exact .inl (List.mem_of_mem_eraseIdx h)
    · exact .inl h

lemma get_cache_move [LawfulCache σ] {x : Move}
    (h : CacheStore.get (d.move t x).world.cache id = .ok (some e)) :
    CacheStore.get t.world.cache id = .ok (some e) ∨ (d.source t.world.toScene).fill id = some e ∨
      .stamped id (some e) ∈ t.fillings := by
  cases x with
  | event event =>
    rcases get_cache_step h with hold | hfill
    · exact .inl hold
    · exact .inr (.inl hfill)
  | check => exact .inl h
  | stamp n =>
    simp only [move] at h
    split at h
    · exact .inl h
    · exact .inl h
  | write n =>
    simp only [move] at h
    split at h
    · rename_i a entry hn
      rcases CachedSource.get_write t.world.cache a id entry with hold | ⟨rfl, e', rfl, hnew⟩
      · exact .inl (hold.symm.trans h)
      · obtain rfl := Option.some.inj (Except.ok.inj (hnew.symm.trans h))
        exact .inr (.inr (List.mem_of_getElem? hn))
    · exact .inl h

lemma Accounted.move [LawfulCache σ] (h : d.Accounted u t) (hcourse : d.Course u t) (x : Move) :
    d.Accounted u (d.move t x) where
  checked id r hmem := by
    rcases mem_fillings_move hmem with hold | ⟨a, hnew⟩ | ⟨a, r', -, hnew⟩
    · obtain ⟨o, hbefore, hafter, hr⟩ := h.checked id r hold
      exact ⟨o, hbefore, hafter.move x, hr⟩
    · cases hnew
      exact ⟨t, hcourse, .move x .refl, rfl⟩
    · cases hnew
  stamped id e hmem := by
    rcases mem_fillings_move hmem with hold | ⟨a, hnew⟩ | ⟨a, r, hchecked, hnew⟩
    · obtain ⟨o, m, hfills⟩ := h.stamped id e hold
      exact ⟨o, m, hfills.next x⟩
    · cases hnew
    · obtain ⟨rfl, hentry⟩ := Filling.stamped.inj hnew
      obtain ⟨o, hbefore, hafter, rfl⟩ := h.checked id r hchecked
      exact ⟨o, t, hbefore, hafter, .move x .refl, hentry.symm⟩
  cached id e hget := by
    rcases get_cache_move hget with hold | hfill | hstamped
    · obtain ⟨o, m, hfills⟩ := h.cached id e hold
      exact ⟨o, m, hfills.next x⟩
    · exact ⟨t, t, hcourse, .refl, .move x .refl, hfill⟩
    · obtain ⟨o, m, hfills⟩ := h.stamped id e hstamped
      exact ⟨o, m, hfills.next x⟩

lemma Course.accounted [LawfulCache σ] (h : d.Course u t) (hidle : u.fillings = [])
    (hempty : ∀ a, CacheStore.get u.world.cache a = .ok none) : d.Accounted u t := by
  induction h with
  | refl =>
    refine ⟨fun id r hmem => ?_, fun id e hmem => ?_, fun id e hget => ?_⟩
    · rw [hidle] at hmem
      cases hmem
    · rw [hidle] at hmem
      cases hmem
    · rw [hempty] at hget
      cases hget
  | move x hcourse ih => exact ih.move hcourse x

lemma Fills.edited_iff (h : d.Fills u o m t id e) (hstore : u.world.store.WellRevised)
    (hfresh : (d.source t.world.toScene).isFresh e = true) {a : EntityId}
    (ha : a ∈ d.dependencies o.world.toScene id) :
    t.world.store.revision? a ≠ o.world.store.revision? a ↔
      m.world.store.revision? a ≠ o.world.store.revision? a ∨
        m.world.store.revision? a = none ∧ t.world.store.revision? a ≠ none := by
  have hrecorded := ((isFresh_stamped_iff h.stamped).mp hfresh).2 a ha
  have hback : o.world.store.revision? a ≠ none → t.world.store.revision? a = o.world.store.revision? a →
      m.world.store.revision? a = o.world.store.revision? a :=
    Store.Precedes.revision?_eq (h.before.wellRevised hstore) h.between.precedes h.after.precedes
  by_cases hm : m.world.store.revision? a = none
  · by_cases ho : o.world.store.revision? a = none
    · rw [hm, ho]
      simp
    · refine iff_of_true (fun ht => ho ((hback ho ht).symm.trans hm)) (.inl fun hmo => ho (hmo.symm.trans hm))
  · rw [hrecorded hm]
    simp [hm]

lemma restates_of_agree {o s : Scene}
    (hresults : e.results = ((d.source o).checked id).results)
    (hfuture : e.future = ((d.source o).checked id).metadata.future)
    (hagree : ∀ a ∈ d.dependencies o id, s.store.find? a = o.store.find? a)
    (hclock : s.now = o.now ∨ o.OnCalendar ∧ s.now.InCalendar ∧ s.now.isBefore o.now = false ∧
      e.future.all s.now.isBefore = true) : d.Restates o s id e := by
  have hpairs : (d.auditor s).pairs id = (d.auditor o).pairs id :=
    Auditor.pairs_congr (hagree id (mem_dependencies_self d o id)) rfl
  refine ⟨?_, fun p hp hstores hunique hlink hgraph => ?_⟩
  · rw [hresults, results_checked, hpairs, List.filter_map]
    rfl
  · rw [hpairs] at hp
    rw [hfuture] at hclock
    exact (d.matches_auditor o s).outcome_eq_iff (Catalog.traces_of_ne hunique hlink hgraph)
      (confirms_of_agree hagree hclock hp hstores)

end Deployment

namespace Sample

open Deployment

def meanwhile (d : Deployment) (u : World EntryCache) (x : Entity) : Traffic EntryCache :=
  d.move (d.move ⟨u, []⟩ (.check (.item ⟨1⟩))) (.event (.save x))

def filled (d : Deployment) (u : World EntryCache) (x : Entity) : Traffic EntryCache :=
  d.move (d.move (meanwhile d u x) (.stamp 0)) (.write 0)

lemma now_filled (d : Deployment) (u : World EntryCache) (x : Entity) : (filled d u x).world.now = u.now := rfl

lemma store_meanwhile (d : Deployment) (u : World EntryCache) (x : Entity) :
    (meanwhile d u x).world.store = (u.store.save x).1 := rfl

lemma store_filled (d : Deployment) (u : World EntryCache) (x : Entity) :
    (filled d u x).world.store = (meanwhile d u x).world.store := rfl

lemma fills_filled {d : Deployment} {u : World EntryCache} {x : Entity} {e : CacheEntry}
    (h : d.stamped u.toScene (meanwhile d u x).world.toScene (.item ⟨1⟩) = some e) :
    d.Fills ⟨u, []⟩ ⟨u, []⟩ (meanwhile d u x) (filled d u x) (.item ⟨1⟩) e ∧
      CacheStore.get (filled d u x).world.cache (.item ⟨1⟩) = .ok (some e) := by
  refine ⟨⟨.refl, .move _ (.move _ .refl), .move _ (.move _ .refl), h⟩, ?_⟩
  have hchecked : (meanwhile d u x).fillings[0]? =
      some (.checked (.item ⟨1⟩) ((d.source u.toScene).checked (.item ⟨1⟩))) := rfl
  rw [filled, cache_write ((fillings_stamp hchecked).trans (congrArg some (congrArg _ h)))]
  refine congrArg Except.ok ((SortedMap.get?_insert _ _ _ _).trans ?_)
  rw [if_pos rfl]

lemma isFresh_filled {d : Deployment} {u : World EntryCache} {x : Entity} {e : CacheEntry}
    (h : d.stamped u.toScene (meanwhile d u x).world.toScene (.item ⟨1⟩) = some e)
    (hfuture : ((d.source u.toScene).checked (.item ⟨1⟩)).metadata.future = none) :
    (d.source (filled d u x).world.toScene).isFresh e = true := by
  refine (isFresh_stamped_iff h).mpr ⟨?_, fun a _ _ => ?_⟩
  · rw [hfuture]
    rfl
  · rw [store_filled]

end Sample

namespace Deployment

open Sample

variable {d : Deployment} {σ : Type} [CacheStore σ] {u t : Traffic σ} {id : EntityId} {e : CacheEntry}

/-- A fresh entry was checked in one traffic of the course and got its revisions in a later one. Edits of
its dependencies in between do not show, and else only those that create an entity that was missing. If
all dependencies looked the same in both, the entry restates a check on every store that holds the recorded
revisions. That says nothing of results that were not stored or that come from other services. -/
theorem fresh_entry_of_course [LawfulCache σ] (hstore : u.world.store.Reachable)
    (hidle : u.fillings = []) (hempty : ∀ a, CacheStore.get u.world.cache a = .ok none)
    (hcourse : d.Course u t)
    (hget : CacheStore.get t.world.cache id = .ok (some e))
    (hfresh : (d.source t.world.toScene).isFresh e = true) :
    (∃ o m, d.Fills u o m t id e) ∧ ∀ o m, d.Fills u o m t id e →
      (∀ a ∈ d.dependencies o.world.toScene id,
        (t.world.store.revision? a ≠ o.world.store.revision? a ↔
          m.world.store.revision? a ≠ o.world.store.revision? a ∨
            m.world.store.revision? a = none ∧ t.world.store.revision? a ≠ none)) ∧
      ((∀ a ∈ d.dependencies o.world.toScene id, m.world.store.find? a = o.world.store.find? a) →
        ∀ s : Scene, m.world.store.SharesVersions s.store →
          (∀ a ∈ d.dependencies o.world.toScene id, s.store.revision? a = e.revisions.get? a) →
          (s.now = o.world.now ∨ o.world.OnCalendar ∧ s.now.InCalendar ∧
            s.now.isBefore o.world.now = false ∧ e.future.all s.now.isBefore = true) →
          d.Restates o.world.toScene s id e) := by
  refine ⟨(hcourse.accounted hidle hempty).cached id e hget, fun o m hfills => ⟨fun a ha => ?_, ?_⟩⟩
  · exact hfills.edited_iff hstore.wellRevised hfresh ha
  · intro hsame s hversions hrevisions hclock
    obtain ⟨-, hresults, hstamp, hfuture⟩ := stamped_eq_some hfills.stamped
    refine restates_of_agree hresults hfuture (fun a ha => ?_) hclock
    rw [hversions.find?_eq ?_, hsame a ha]
    rw [hrevisions a ha, hstamp, Store.get?_revisions, if_pos ha]

theorem entry_of_unrelated_save :
    let d := marriages {} []
    let u := registry [married ⟨1⟩ ⟨2⟩, .empty (.item ⟨2⟩)]
    let t := filled d u (.empty (.item ⟨3⟩))
    ∃ e, CacheStore.get t.world.cache (.item ⟨1⟩) = .ok (some e) ∧
      (d.source t.world.toScene).isFresh e = true ∧
        d.Restates u.toScene t.world.toScene (.item ⟨1⟩) e := by
  intro d u t
  have hstore : u.store.Reachable := reachable_registry _
  have hsome : (d.stamped u.toScene (meanwhile d u (.empty (.item ⟨3⟩))).world.toScene (.item ⟨1⟩)).isSome =
      true := by decide
  have hdependencies : d.dependencies u.toScene (.item ⟨1⟩) = [.item ⟨2⟩, .item ⟨1⟩] := by decide
  obtain ⟨e, he⟩ := Option.isSome_iff_exists.mp hsome
  obtain ⟨hfills, hget⟩ := fills_filled he
  have hfresh : (d.source t.world.toScene).isFresh e = true := isFresh_filled he (by decide)
  have hcourse := hfills.between.trans hfills.after
  have hentry := (fresh_entry_of_course hstore rfl (fun _ => rfl) hcourse hget hfresh).2 _ _ hfills
  refine ⟨e, hget, hfresh, hentry.2 (fun a ha => ?_) _ ?_ (fun a ha => ?_) (.inl (now_filled _ _ _))⟩
  · rw [store_meanwhile]
    refine Store.find?_save_of_ne ?_
    rintro rfl
    rw [hdependencies] at ha
    revert ha
    decide
  · rw [store_filled]
    exact (Store.Precedes.refl _).sharesVersions (hfills.between.wellRevised hstore.wellRevised)
  · obtain ⟨-, -, hstamp, -⟩ := stamped_eq_some he
    rw [store_filled, hstamp, Store.get?_revisions, if_pos ha]

theorem entry_of_unnoticed_save :
    let d := marriages {} []
    let t := filled d (registry [married ⟨1⟩ ⟨2⟩, .empty (.item ⟨2⟩)]) (married ⟨2⟩ ⟨1⟩)
    ∃ e, CacheStore.get t.world.cache (.item ⟨1⟩) = .ok (some e) ∧
      (d.source t.world.toScene).isFresh e = true ∧ e.results.map (·.status) = [.warning] ∧
        ((d.source t.world.toScene).checked (.item ⟨1⟩)).results.map (·.status) = [] := by
  intro d t
  have hsome : (d.stamped (registry [married ⟨1⟩ ⟨2⟩, .empty (.item ⟨2⟩)]).toScene
      (meanwhile d (registry [married ⟨1⟩ ⟨2⟩, .empty (.item ⟨2⟩)]) (married ⟨2⟩ ⟨1⟩)).world.toScene
      (.item ⟨1⟩)).isSome = true := by decide
  obtain ⟨e, he⟩ := Option.isSome_iff_exists.mp hsome
  refine ⟨e, (fills_filled he).2, isFresh_filled he (by decide), ?_, by decide⟩
  rw [(stamped_eq_some he).2.1]
  decide

end Deployment

end EntityAudit
