import EntityAudit.Proofs.Cache.Wiki
import EntityAudit.Proofs.Pairs

/-!
Fresh entries. In a store that comes from that of the check, and where identifiers without entity
have stayed so, everything that a fresh entry was derived from looks as it did.
-/

namespace EntityAudit

def Entity.IsDated (e : Entity) : Prop :=
  ∀ s ∈ e.statements.toList, ∀ snak ∈ s.snaks, ∀ v ∈ snak.value?, v.IsDated

structure Scene.OnCalendar (s : Scene) : Prop where
  now : s.now.InCalendar
  dated : ∀ id e, s.store.find? id = some e → e.IsDated

structure Scene.Precedes (o w : Scene) : Prop where
  wellRevised : o.store.WellRevised
  store : o.store.Precedes w.store
  absent : ∀ id, o.store.revision? id = none → w.store.revision? id = none
  clock : w.now = o.now ∨ o.OnCalendar ∧ w.now.InCalendar ∧ w.now.isBefore o.now = false

lemma Scene.Precedes.refl {o : Scene} (h : o.store.WellRevised) : o.Precedes o where
  wellRevised := h
  store := .refl _
  absent _ h := h
  clock := .inl rfl

lemma Auditor.dated_of_mem_pairs {a : Auditor} {id : EntityId} {p : Pair} (h : p ∈ a.pairs id)
    (hdated : ∀ e, a.services.find? id = some e → e.IsDated) : ∀ v ∈ p.1.snak.value?, v.IsDated := by
  unfold pairs at h
  cases hfind : a.services.find? id with
  | none =>
    rw [hfind] at h
    cases h
  | some e =>
    rw [hfind] at h
    obtain ⟨s, hs, hp⟩ := List.mem_flatMap.mp h
    obtain ⟨context, hcontext, hc⟩ := List.mem_flatMap.mp hp
    obtain ⟨c, -, rfl⟩ := List.mem_map.mp hc
    have hmem : s.1 ∈ e.statements.toList :=
      List.fst_mem_of_mem_zipIdx (List.mem_filter.mp hs).1
    exact hdated e hfind s.1 hmem _ (Context.snak_mem hcontext)

namespace Deployment

variable {d : Deployment} {o m w : Scene} {id : EntityId} {e : CacheEntry}

def dependencies (d : Deployment) (o : Scene) (id : EntityId) : List EntityId :=
  ((d.source o).checked id).metadata.entities.keys ++ [id]

lemma mem_dependencies_self (d : Deployment) (o : Scene) (id : EntityId) : id ∈ d.dependencies o id :=
  List.mem_append_right _ (List.mem_singleton.mpr rfl)

def recorded (d : Deployment) (m : Scene) (id : EntityId) (r : ResultSet) : Option CacheEntry :=
  CachedSource.entry? (d.source m) id r ((d.source m).stamp id r)

/-- The entry for an identifier if it is checked in one scene and the revisions are read in another. -/
def stamped (d : Deployment) (o m : Scene) (id : EntityId) : Option CacheEntry :=
  d.recorded m id ((d.source o).checked id)

lemma stamp_checked (d : Deployment) (o m : Scene) (id : EntityId) :
    (d.source m).stamp id ((d.source o).checked id) = m.store.revisions (d.dependencies o id) := rfl

lemma stamped_eq_some (h : d.stamped o m id = some e) :
    m.store.revision? id ≠ none ∧ e.results = ((d.source o).checked id).results ∧
      e.revisions = m.store.revisions (d.dependencies o id) ∧
      e.future = ((d.source o).checked id).metadata.future := by
  unfold stamped recorded CachedSource.entry? at h
  rw [stamp_checked] at h
  split at h
  · rename_i hcontains
    obtain rfl := Option.some.inj h
    refine ⟨?_, rfl, rfl, rfl⟩
    obtain ⟨n, hn⟩ := SortedMap.contains_iff_get?.mp hcontains
    rw [Store.get?_revisions, if_pos (mem_dependencies_self d o id)] at hn
    rw [hn]
    exact Option.some_ne_none n
  · cases h

lemma fill_eq_some (h : (d.source o).fill id = some e) :
    o.store.revision? id ≠ none ∧ e.results = ((d.source o).checked id).results ∧
      e.revisions = o.store.revisions (d.dependencies o id) ∧
      e.future = ((d.source o).checked id).metadata.future :=
  stamped_eq_some h

lemma isFresh_stamped_iff (h : d.stamped o m id = some e) :
    (d.source w).isFresh e = true ↔
      ((d.source o).checked id).metadata.future.all w.now.isBefore = true ∧
        ∀ a ∈ d.dependencies o id, m.store.revision? a ≠ none →
          w.store.revision? a = m.store.revision? a := by
  obtain ⟨-, -, hrevisions, hfuture⟩ := stamped_eq_some h
  have hsource : (d.source w).revisions = w.store.revisions := rfl
  rw [CachedSource.isFresh, Bool.and_eq_true, SortedMap.beq_eq_true_iff, hrevisions, hfuture, hsource,
    Store.revisions_keys_eq_iff]
  rfl

lemma isFresh_iff (h : (d.source o).fill id = some e) :
    (d.source w).isFresh e = true ↔
      ((d.source o).checked id).metadata.future.all w.now.isBefore = true ∧
        ∀ a ∈ d.dependencies o id, o.store.revision? a ≠ none →
          w.store.revision? a = o.store.revision? a :=
  isFresh_stamped_iff h

lemma find?_of_fresh (how : o.Precedes w) (h : (d.source o).fill id = some e)
    (hfresh : (d.source w).isFresh e = true) {a : EntityId} (ha : a ∈ d.dependencies o id) :
    w.store.find? a = o.store.find? a := by
  refine (how.store.sharesVersions how.wellRevised).find?_eq ?_
  by_cases hnone : o.store.revision? a = none
  · rw [hnone, how.absent a hnone]
  · exact ((isFresh_iff h).mp hfresh).2 a ha hnone

lemma pairs_of_fresh (how : o.Precedes w) (h : (d.source o).fill id = some e)
    (hfresh : (d.source w).isFresh e = true) : (d.auditor w).pairs id = (d.auditor o).pairs id :=
  Auditor.pairs_congr (find?_of_fresh how h hfresh (mem_dependencies_self d o id)) rfl

lemma matches_auditor (d : Deployment) (o w : Scene) : (d.auditor o).Matches (d.auditor w) where
  config := rfl
  catalog := rfl

lemma results_checked (d : Deployment) (o : Scene) (id : EntityId) :
    ((d.source o).checked id).results =
      (((d.auditor o).pairs id).map (d.auditor o).outcomeOf).filter fun r =>
        d.config.cachedStatuses.contains r.status := by
  have hsource := Auditor.source_entity (a := d.auditor o)
    { entities := [id], statuses := d.config.cachedStatuses } id rfl rfl
  simp only [Option.all_none, List.filter_true] at hsource
  exact hsource

lemma metadata_checked (d : Deployment) (o : Scene) (id : EntityId) :
    ((d.source o).checked id).metadata = .merge (((d.source o).checked id).results.map (·.metadata)) :=
  rfl

lemma confirms_of_agree (hagree : ∀ a ∈ d.dependencies o id, w.store.find? a = o.store.find? a)
    (hclock : w.now = o.now ∨ o.OnCalendar ∧ w.now.InCalendar ∧ w.now.isBefore o.now = false ∧
      ((d.source o).checked id).metadata.future.all w.now.isBefore = true)
    {p : Auditor.Pair} (hp : p ∈ (d.auditor o).pairs id)
    (hstatus : d.config.cachedStatuses.contains ((d.auditor o).outcomeOf p).status = true) :
    Confirms (d.services o) (d.services w) p.1 ((d.auditor o).outcomeOf p).metadata := by
  have hmem : ((d.auditor o).outcomeOf p).metadata ∈
      ((d.source o).checked id).results.map (·.metadata) := by
    rw [results_checked]
    exact List.mem_map_of_mem (List.mem_filter.mpr ⟨List.mem_map_of_mem hp, hstatus⟩)
  refine ⟨fun a ha => .of_eq (hagree a ?_), ?_⟩
  · refine List.mem_append_left _ (SortedMap.contains_iff_mem_keys.mp ?_)
    rw [metadata_checked, Metadata.contains_merge]
    exact ⟨_, hmem, ha⟩
  · rcases hclock with hsame | ⟨hcalendar, hnow, hlater, hahead⟩
    · exact .same hsame
    · refine .later hlater hcalendar.now hnow (Auditor.dated_of_mem_pairs hp (hcalendar.dated id)) ?_
      rw [metadata_checked, Metadata.all_future_merge] at hahead
      exact List.all_eq_true.mp hahead _ hmem

lemma confirms_of_fresh (how : o.Precedes w) (h : (d.source o).fill id = some e)
    (hfresh : (d.source w).isFresh e = true) {p : Auditor.Pair} (hp : p ∈ (d.auditor o).pairs id)
    (hstatus : d.config.cachedStatuses.contains ((d.auditor o).outcomeOf p).status = true) :
    Confirms (d.services o) (d.services w) p.1 ((d.auditor o).outcomeOf p).metadata := by
  refine confirms_of_agree (fun a => find?_of_fresh how h hfresh) (how.clock.imp_right ?_) hp hstatus
  rintro ⟨hcalendar, hnow, hlater⟩
  exact ⟨hcalendar, hnow, hlater, ((isFresh_iff h).mp hfresh).1⟩

lemma outcomeOf_eq_iff_of_fresh (how : o.Precedes w) (h : (d.source o).fill id = some e)
    (hfresh : (d.source w).isFresh e = true) {p : Auditor.Pair} (hp : p ∈ (d.auditor o).pairs id)
    (hstatus : d.config.cachedStatuses.contains ((d.auditor o).outcomeOf p).status = true)
    (htraces : (Catalog.ofTypes d.config.constraintTypes).Traces d.config p.2.type) :
    (d.auditor w).outcomeOf p = (d.auditor o).outcomeOf p ↔
      ((d.auditor o).Hides p.1 p.2 → (d.auditor w).Hides p.1 p.2) :=
  (d.matches_auditor o w).outcome_eq_iff htraces (confirms_of_fresh how h hfresh hp hstatus)

end Deployment

namespace Sample

lemma isDated_married (id other : ItemId) : (married id other).IsDated := by
  intro s hs snak hsnak v hv
  obtain rfl := List.mem_singleton.mp hs
  obtain rfl := List.mem_singleton.mp hsnak
  obtain rfl := Option.some.inj hv
  trivial

lemma isDated_empty (id : EntityId) : (Entity.empty id).IsDated := by
  intro s hs
  cases hs

lemma onCalendar_registry {entities : List Entity} (h : ∀ e ∈ entities, e.IsDated) :
    (registry entities).toScene.OnCalendar where
  now := by
    change Moment.InCalendar ⟨0, 0⟩
    unfold Moment.InCalendar
    decide
  dated := by
    suffices hdated : ∀ s : Store, (∀ id x, s.find? id = some x → x.IsDated) →
        ∀ id x, (entities.foldl (fun s e => (s.save e).1) s).find? id = some x → x.IsDated by
      refine hdated .empty fun id x hx => ?_
      cases hx
    induction entities with
    | nil => exact fun _ hs => hs
    | cons e entities ih =>
      refine fun s hs => ih (fun a ha => h a (List.mem_cons_of_mem _ ha)) _ fun id x hx => ?_
      rcases Store.find?_save hx with rfl | hold
      · exact h _ List.mem_cons_self
      · exact hs id x hold

end Sample

end EntityAudit
