import EntityAudit.Proofs.Cache.Entry

namespace EntityAudit

namespace Result

def ageless (r : Result) : Result := { r with metadata := { r.metadata with maxAge := none } }

def finding (r : Result) : Result := { r with metadata := .blank }

lemma ageless_withMetadata_ofAge (r : Result) (seconds : Nat) :
    (r.withMetadata (.ofAge seconds)).ageless = r.ageless := by
  obtain ⟨_, _, _, _, _, _, _, future⟩ := r
  cases future with
  | none => rfl
  | some => rfl

lemma map_ageless_withMetadata (l : List Result) (seconds : Nat) :
    (l.map (·.withMetadata (.ofAge seconds))).map ageless = l.map ageless := by
  rw [List.map_map]
  exact List.map_congr_left fun r _ => r.ageless_withMetadata_ofAge seconds

end Result

namespace Query

def asks (q : Query) (r : Result) : Bool := q.statuses.contains r.status

lemma ageless_filter_asks (q : Query) (seconds : Nat) (l : List Result) :
    ((l.map (·.withMetadata (.ofAge seconds))).filter q.asks).map Result.ageless =
      (l.filter q.asks).map Result.ageless := by
  rw [List.filter_map, Result.map_ageless_withMetadata]
  rfl

lemma filter_asks_of_subset {q : Query} {statuses : List Status}
    (h : ∀ s, q.statuses.contains s = true → statuses.contains s = true) (l : List Result) :
    (l.filter fun r => statuses.contains r.status).filter q.asks = l.filter q.asks := by
  rw [List.filter_filter]
  refine List.filter_congr fun r _ => ?_
  cases hr : q.asks r with
  | false => rfl
  | true =>
    rw [h _ hr]
    rfl

end Query

namespace Deployment

variable (d : Deployment) (o w : Scene)

def doubts (c : Constraint) : Bool := d.config.possiblyStaleTypes.contains c.type

def stores (p : Auditor.Pair) : Bool :=
  d.config.cachedStatuses.contains ((d.auditor o).outcomeOf p).status

def keeps (p : Auditor.Pair) : Bool := !d.doubts p.2 && d.stores o p

def doubted (id : EntityId) : List Auditor.Pair :=
  ((d.auditor o).pairs id).filter fun p => d.doubts p.2 && d.stores o p

def rechecks (id : EntityId) (p : Auditor.Pair) : Bool :=
  ((d.doubted o id).map (·.2.id)).contains p.2.id

def skips (id : EntityId) (p : Auditor.Pair) : Bool := !d.keeps o p && !d.rechecks o id p

def DistinctIds : Prop :=
  ∀ p q, ∀ c ∈ d.constraints p, ∀ c' ∈ d.constraints q, c.id = c'.id → c = c'

variable {d} {o w : Scene} {id : EntityId} {e : CacheEntry}

lemma mem_constraints_of_mem_pairs {p : Auditor.Pair} (h : p ∈ (d.auditor o).pairs id) :
    p.2 ∈ d.constraints p.1.property := by
  unfold Auditor.pairs at h
  split at h
  · cases h
  · obtain ⟨s, -, hp⟩ := List.mem_flatMap.mp h
    obtain ⟨context, -, hc⟩ := List.mem_flatMap.mp hp
    obtain ⟨c, hmem, rfl⟩ := List.mem_map.mp hc
    exact hmem

lemma doubts_of_rechecks (hdistinct : d.DistinctIds) {p : Auditor.Pair}
    (hp : p ∈ (d.auditor o).pairs id) (h : d.rechecks o id p = true) : d.doubts p.2 = true := by
  obtain ⟨x, hx, hid⟩ := List.mem_map.mp (List.contains_iff_mem.mp h)
  obtain ⟨hxmem, hxdoubted⟩ := List.mem_filter.mp hx
  have heq := hdistinct _ _ _ (mem_constraints_of_mem_pairs hxmem) _ (mem_constraints_of_mem_pairs hp) hid
  rw [← heq]
  exact (Bool.and_eq_true _ _ ▸ hxdoubted).1

lemma results_kept (h : (d.source o).fill id = some e) :
    e.results.filter (fun r => !(d.source w).isDoubtful r) =
      (((d.auditor o).pairs id).filter (d.keeps o)).map (d.auditor o).outcomeOf := by
  rw [(fill_eq_some h).2.1, results_checked, List.filter_filter, List.filter_map]
  rfl

lemma ids_doubted (h : (d.source o).fill id = some e) :
    (e.results.filter (d.source w).isDoubtful).map (·.constraint.id) =
      (d.doubted o id).map (·.2.id) := by
  rw [(fill_eq_some h).2.1, results_checked, List.filter_filter, List.filter_map, List.map_map]
  rfl

lemma results_rechecked (d : Deployment) (w : Scene) (id : EntityId) (ids : List String) :
    ((d.source w).inner {
      entities := [id]
      constraints := some (SortedMap.setOf ids).keys
      statuses := d.config.cachedStatuses }).results =
      ((((d.auditor w).pairs id).filter fun p => ids.contains p.2.id).map
        (d.auditor w).outcomeOf).filter fun r => d.config.cachedStatuses.contains r.status := by
  have hkeys : ∀ s, (SortedMap.setOf ids).keys.contains s = ids.contains s := by
    intro s
    rw [Bool.eq_iff_iff, List.contains_iff_mem, List.contains_iff_mem, ← SortedMap.contains_iff_mem_keys,
      SortedMap.contains_setOf]
  have hsource := Auditor.source_entity (a := d.auditor w) {
    entities := [id]
    constraints := some (SortedMap.setOf ids).keys
    statuses := d.config.cachedStatuses } id rfl rfl
  simp only [Option.all_some, hkeys] at hsource
  exact hsource

lemma served_eq_append (d : Deployment) (w : Scene) (id : EntityId) (e : CacheEntry) :
    ∃ age, (d.source w).served id e =
      (e.results.filter fun r => !(d.source w).isDoubtful r).map (·.withMetadata (.ofAge age)) ++
      ((((d.auditor w).pairs id).filter fun p =>
        ((e.results.filter (d.source w).isDoubtful).map (·.constraint.id)).contains p.2.id).map
          (d.auditor w).outcomeOf).filter fun r => d.config.cachedStatuses.contains r.status := by
  refine ⟨(d.source w).now.secondsSince e.storedAt, ?_⟩
  rw [CachedSource.served]
  split
  · rename_i hempty
    rw [List.isEmpty_iff.mp hempty]
    simp
  · exact congrArg _ (results_rechecked d w id _)

lemma served_eq (how : o.Precedes w) (h : (d.source o).fill id = some e)
    (hfresh : (d.source w).isFresh e = true) :
    ∃ age, (d.source w).served id e =
      ((((d.auditor o).pairs id).filter (d.keeps o)).map (d.auditor o).outcomeOf).map
        (·.withMetadata (.ofAge age)) ++
      ((((d.auditor o).pairs id).filter (d.rechecks o id)).map (d.auditor w).outcomeOf).filter fun r =>
        d.config.cachedStatuses.contains r.status := by
  have hserved := served_eq_append d w id e
  rw [results_kept h, ids_doubted h, pairs_of_fresh how h hfresh] at hserved
  exact hserved

lemma pairs_perm (o : Scene) (id : EntityId) (hdistinct : d.DistinctIds) :
    ((d.auditor o).pairs id).filter (d.keeps o) ++ (((d.auditor o).pairs id).filter (d.rechecks o id) ++
      ((d.auditor o).pairs id).filter (d.skips o id)) |>.Perm ((d.auditor o).pairs id) := by
  have hrechecks : (((d.auditor o).pairs id).filter fun p => !d.keeps o p).filter (d.rechecks o id) =
      ((d.auditor o).pairs id).filter (d.rechecks o id) := by
    rw [List.filter_filter]
    refine List.filter_congr fun p hp => ?_
    cases hr : d.rechecks o id p with
    | false => rfl
    | true =>
      rw [keeps, doubts_of_rechecks hdistinct hp hr]
      rfl
  have hskips : (((d.auditor o).pairs id).filter fun p => !d.keeps o p).filter
      (fun p => !d.rechecks o id p) = ((d.auditor o).pairs id).filter (d.skips o id) := by
    rw [List.filter_filter]
    exact List.filter_congr fun p _ => Bool.and_comm _ _
  have hrest := List.filter_append_perm (d.rechecks o id)
    (((d.auditor o).pairs id).filter fun p => !d.keeps o p)
  rw [hrechecks, hskips] at hrest
  exact (hrest.append_left _).trans (List.filter_append_perm (d.keeps o) _)

lemma served_view (how : o.Precedes w) (h : (d.source o).fill id = some e)
    (hfresh : (d.source w).isFresh e = true) {q : Query}
    (hq : ∀ s, q.statuses.contains s = true → d.config.cachedStatuses.contains s = true) :
    (((d.source w).served id e).filter q.asks).map Result.ageless =
      (((((d.auditor o).pairs id).filter (d.keeps o)).map (d.auditor o).outcomeOf ++
        (((d.auditor o).pairs id).filter (d.rechecks o id)).map (d.auditor w).outcomeOf).filter
          q.asks).map Result.ageless := by
  obtain ⟨age, hserved⟩ := served_eq how h hfresh
  rw [hserved, List.filter_append, List.filter_append, List.map_append, List.map_append,
    q.ageless_filter_asks, Query.filter_asks_of_subset hq]

end Deployment

lemma Sample.distinctIds_marriages (config : Config) (weights : List ItemId) :
    (Sample.marriages config weights).DistinctIds := by
  intro p q c hc c' hc' _
  rw [Sample.eq_symmetry hc, Sample.eq_symmetry hc']

end EntityAudit
