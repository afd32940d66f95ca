import EntityAudit.Proofs.Cache.Served

/-!
Doubted constraints in what is served. Which of them are checked again is read off the results of the
entry, so one without a result there is left out, whatever a check would give now.
-/

namespace EntityAudit

def Result.isFor (s : String) (r : Result) : Bool := r.constraint.id = s

lemma Result.isFor_iff {s : String} {r : Result} : r.isFor s = true ↔ r.constraint.id = s := by
  simp [isFor]

namespace Deployment

variable {d : Deployment} {w : Scene} {id : EntityId} {e : CacheEntry} {c : Constraint}
  {property : PropertyId}

lemma filter_isFor_rechecked (d : Deployment) (w : Scene) (id : EntityId) (ids : List String) (s : String) :
    (((((d.auditor w).pairs id).filter fun p => ids.contains p.2.id).map (d.auditor w).outcomeOf).filter
        fun r => d.config.cachedStatuses.contains r.status).filter (Result.isFor s) =
      if ids.contains s then ((d.source w).checked id).results.filter (Result.isFor s) else [] := by
  have hid : ∀ p, ((d.auditor w).outcomeOf p).isFor s = true → p.2.id = s :=
    fun p hp => Result.isFor_iff.mp hp
  rw [results_checked]
  simp only [List.filter_map, List.filter_filter, Function.comp_def]
  split
  · rename_i hs
    congr 1
    apply List.filter_congr
    intro p _
    cases hp : ((d.auditor w).outcomeOf p).isFor s with
    | false => simp
    | true => simp only [hid p hp, hs, Bool.and_true]
  · rename_i hs
    rw [List.map_eq_nil_iff, List.filter_eq_nil_iff]
    intro p _ hp
    simp only [Bool.and_eq_true] at hp
    obtain ⟨hfor, -, hmem⟩ := hp
    exact hs (hid p hfor ▸ hmem)

lemma doubts_of_mem_checked (hdistinct : d.DistinctIds) (hc : c ∈ d.constraints property)
    (hdoubts : d.doubts c = true) {r : Result} (hr : r ∈ ((d.source w).checked id).results)
    (hid : r.constraint.id = c.id) : d.doubts r.constraint = true := by
  rw [results_checked] at hr
  obtain ⟨p, hp, rfl⟩ := List.mem_map.mp (List.mem_filter.mp hr).1
  have hsame : p.2 = c := hdistinct _ _ _ (mem_constraints_of_mem_pairs hp) _ hc hid
  change d.doubts p.2 = true
  rw [hsame, hdoubts]

lemma kept_isFor_eq_nil_iff :
    (e.results.filter fun r => !(d.source w).isDoubtful r).filter (Result.isFor c.id) = [] ↔
      ∀ r ∈ e.results, r.constraint.id = c.id → d.doubts r.constraint = true := by
  rw [List.filter_filter, List.filter_eq_nil_iff]
  constructor
  · intro h r hr hid
    have hnot := h r hr
    rw [Result.isFor_iff.mpr hid, Bool.true_and, Bool.not_eq_true, Bool.not_eq_false'] at hnot
    exact hnot
  · intro h r hr hboth
    rw [Bool.and_eq_true, Result.isFor_iff, Bool.not_eq_true'] at hboth
    have hdoubtful : (d.source w).isDoubtful r = true := h r hr hboth.1
    rw [hdoubtful] at hboth
    cases hboth.2

lemma mem_ids_rechecked_iff :
    ((e.results.filter (d.source w).isDoubtful).map (·.constraint.id)).contains c.id = true ↔
      ∃ r ∈ e.results, d.doubts r.constraint = true ∧ r.constraint.id = c.id := by
  rw [List.contains_iff_mem, List.mem_map]
  constructor
  · rintro ⟨r, hr, hid⟩
    obtain ⟨hmem, hdoubtful⟩ := List.mem_filter.mp hr
    exact ⟨r, hmem, hdoubtful, hid⟩
  · rintro ⟨r, hmem, hdoubtful, hid⟩
    exact ⟨r, List.mem_filter.mpr ⟨hmem, hdoubtful⟩, hid⟩

lemma kept_isFor_eq_nil_of_perm (hdistinct : d.DistinctIds) (hc : c ∈ d.constraints property)
    (hdoubts : d.doubts c = true) {m : Metadata}
    (hperm : (((e.results.filter fun r => !(d.source w).isDoubtful r).filter (Result.isFor c.id)).map
      (·.withMetadata m)).Perm (((d.source w).checked id).results.filter (Result.isFor c.id))) :
    (e.results.filter fun r => !(d.source w).isDoubtful r).filter (Result.isFor c.id) = [] := by
  rw [List.eq_nil_iff_forall_not_mem]
  intro r hr
  obtain ⟨hchecked, hid⟩ := List.mem_filter.mp (hperm.subset (List.mem_map_of_mem hr))
  have hdoubted := doubts_of_mem_checked hdistinct hc hdoubts hchecked (Result.isFor_iff.mp hid)
  have hdoubtful : (d.source w).isDoubtful r = true := hdoubted
  have hkept := (List.mem_filter.mp (List.mem_filter.mp hr).1).2
  rw [hdoubtful] at hkept
  cases hkept

lemma served_isFor_perm_iff (hdistinct : d.DistinctIds) (hc : c ∈ d.constraints property)
    (hdoubts : d.doubts c = true) :
    (((d.source w).served id e).filter (Result.isFor c.id)).Perm
        (((d.source w).checked id).results.filter (Result.isFor c.id)) ↔
      (∀ r ∈ e.results, r.constraint.id = c.id → d.doubts r.constraint = true) ∧
        ((∃ r ∈ e.results, r.constraint.id = c.id) ∨
          ∀ r ∈ ((d.source w).checked id).results, r.constraint.id ≠ c.id) := by
  obtain ⟨age, hserved⟩ := served_eq_append d w id e
  have hkept : ((e.results.filter fun r => !(d.source w).isDoubtful r).map
        (·.withMetadata (.ofAge age))).filter (Result.isFor c.id) =
      ((e.results.filter fun r => !(d.source w).isDoubtful r).filter (Result.isFor c.id)).map
        (·.withMetadata (.ofAge age)) := List.filter_map
  rw [hserved, List.filter_append, filter_isFor_rechecked, hkept, ← kept_isFor_eq_nil_iff (w := w)]
  by_cases hids : ∃ r ∈ e.results, d.doubts r.constraint = true ∧ r.constraint.id = c.id
  · rw [if_pos (mem_ids_rechecked_iff.mpr hids)]
    obtain ⟨r, hr, -, hid⟩ := hids
    constructor
    · intro hperm
      have hlength := hperm.length_eq
      rw [List.length_append, List.length_map, Nat.add_eq_right, List.length_eq_zero_iff] at hlength
      exact ⟨hlength, .inl ⟨r, hr, hid⟩⟩
    · rintro ⟨hnil, -⟩
      rw [hnil]
      exact .refl _
  · rw [if_neg fun h => hids (mem_ids_rechecked_iff.mp h), List.append_nil]
    constructor
    · intro hperm
      have hnil := kept_isFor_eq_nil_of_perm hdistinct hc hdoubts hperm
      refine ⟨hnil, .inr fun r hr hid => ?_⟩
      rw [hnil, List.map_nil, List.nil_perm, List.filter_eq_nil_iff] at hperm
      exact hperm r hr (Result.isFor_iff.mpr hid)
    · rintro ⟨hnil, hstored | hnone⟩
      · obtain ⟨r, hr, hid⟩ := hstored
        exact absurd ⟨r, hr, kept_isFor_eq_nil_iff.mp hnil r hr hid, hid⟩ hids
      · rw [hnil, List.filter_eq_nil_iff.mpr fun r hr hr' => hnone r hr (Result.isFor_iff.mp hr')]
        exact .refl _

end Deployment

namespace Sample

def fidelity : Constraint where
  id := "P26$2"
  property := spouse
  type := ({} : ConstraintTypes).uniqueValue

def monogamy : Wiki where
  config := {}
  constraints _ p := if p = spouse then [fidelity] else []
  graph s := some (GraphQuery.ofStore {} s)

lemma distinctIds_monogamy (s : Store) : (monogamy.deployed s).DistinctIds := by
  have hone : ∀ p, ∀ c ∈ (monogamy.deployed s).constraints p, c = fidelity := by
    intro p c hc
    simp only [Wiki.deployed, monogamy] at hc
    split at hc
    · exact List.mem_singleton.mp hc
    · cases hc
  intro p q c hc c' hc' _
  rw [hone p c hc, hone q c' hc']

end Sample

namespace Wiki

open Sample

/-- Of a doubted constraint, a hit serves what a check gives, exactly if the check that filled the entry
had a result on it that was stored, or a check has none now; and its identifier was not that of a
constraint without doubt then. -/
theorem doubted_served_iff {k : Wiki} {σ : Type} [CacheStore σ] [LawfulCache σ]
    {P : Scene → Event → Prop} {u w : World σ} {id : EntityId} {e : CacheEntry} {c : Constraint}
    {property : PropertyId} (hempty : ∀ a, CacheStore.get u.cache a = .ok none) (hrun : k.Run P u w)
    (hhit : (k.source w.toScene).hit? w.cache id = some e)
    (hdistinct : (k.deployed w.store).DistinctIds) (hc : c ∈ k.constraints w.store property)
    (hstale : k.config.possiblyStaleTypes.contains c.type = true) :
    (∃ o, k.Origin P u o w id e) ∧ ∀ o, k.Origin P u o w id e →
      ((((k.source w.toScene).served id e).filter (Result.isFor c.id)).Perm
          (((k.source w.toScene).checked id).results.filter (Result.isFor c.id)) ↔
        (∀ r ∈ ((k.source o.toScene).checked id).results, r.constraint.id = c.id →
          k.config.possiblyStaleTypes.contains r.constraint.type = true) ∧
        ((∃ r ∈ ((k.source o.toScene).checked id).results, r.constraint.id = c.id) ∨
          ∀ r ∈ ((k.source w.toScene).checked id).results, r.constraint.id ≠ c.id)) := by
  refine ⟨hrun.origin hempty (CachedSource.hit?_eq_some.mp hhit).1, fun o horigin => ?_⟩
  have hresults : e.results = ((k.source o.toScene).checked id).results :=
    (Deployment.fill_eq_some horigin.filled).2.1
  rw [← hresults]
  exact Deployment.served_isFor_perm_iff hdistinct hc hstale

theorem second_spouse_served :
    let q := onFirst monogamy.config
    let u := registry [married ⟨1⟩ ⟨2⟩, married ⟨3⟩ ⟨2⟩]
    let w := monogamy.step (monogamy.step u (.ask q)) (.save (married ⟨4⟩ ⟨2⟩))
    ∃ e, (monogamy.source w.toScene).hit? w.cache (.item ⟨1⟩) = some e ∧
      ((monogamy.source w.toScene).checked (.item ⟨1⟩)).results.map (·.status) = [.warning] ∧
      (((monogamy.source w.toScene).served (.item ⟨1⟩) e).filter (Result.isFor fidelity.id)).Perm
        (((monogamy.source w.toScene).checked (.item ⟨1⟩)).results.filter (Result.isFor fidelity.id)) := by
  intro q u w
  have hrun : monogamy.Run (fun _ _ => True) u w := .step (.step .refl trivial) trivial
  have hsome : ((monogamy.source w.toScene).hit? w.cache (.item ⟨1⟩)).isSome = true := by decide
  obtain ⟨e, he⟩ := Option.isSome_iff_exists.mp hsome
  refine ⟨e, he, by decide, ?_⟩
  have horigin : monogamy.Origin (fun _ _ => True) u u w (.item ⟨1⟩) e :=
    origin_of_request (fun _ => rfl) trivial trivial (CachedSource.hit?_eq_some.mp he).1
  have hfidelity : ∀ s, fidelity ∈ monogamy.constraints s spouse := fun _ => List.mem_cons_self
  have hstored : ((monogamy.source u.toScene).checked (.item ⟨1⟩)).results.any
      (·.constraint.id = fidelity.id) = true := by decide
  obtain ⟨r, hr, hid⟩ := List.any_eq_true.mp hstored
  have hserved := doubted_served_iff (fun _ => rfl) hrun he (distinctIds_monogamy _) (hfidelity _) rfl
  refine ((hserved.2 u horigin).mpr ⟨fun r hr hid => ?_, .inl ⟨r, hr, of_decide_eq_true hid⟩⟩)
  have hdistinct := distinctIds_monogamy u.store
  have hmem : fidelity ∈ (monogamy.deployed u.store).constraints spouse := hfidelity u.store
  exact Deployment.doubts_of_mem_checked hdistinct hmem rfl hr hid

theorem second_spouse_missing :
    let q := onFirst monogamy.config
    let u := registry [married ⟨1⟩ ⟨2⟩]
    let w := monogamy.step (monogamy.step u (.ask q)) (.save (married ⟨3⟩ ⟨2⟩))
    ∃ e, (monogamy.source w.toScene).hit? w.cache (.item ⟨1⟩) = some e ∧
      fidelity.type ∈ monogamy.config.possiblyStaleTypes ∧
      (((monogamy.source w.toScene).served (.item ⟨1⟩) e).filter (Result.isFor fidelity.id)).map
        (·.status) = [] ∧
      (((monogamy.source w.toScene).checked (.item ⟨1⟩)).results.filter
        (Result.isFor fidelity.id)).map (·.status) = [.warning] := by
  intro q u w
  have hsome : ((monogamy.source w.toScene).hit? w.cache (.item ⟨1⟩)).isSome = true := by decide
  obtain ⟨e, he⟩ := Option.isSome_iff_exists.mp hsome
  refine ⟨e, he, by decide, ?_, by decide⟩
  have hserved : ((monogamy.source w.toScene).hit? w.cache (.item ⟨1⟩)).map
      (fun e => (((monogamy.source w.toScene).served (.item ⟨1⟩) e).filter
        (Result.isFor fidelity.id)).map (·.status)) = some [] := by decide
  rw [he] at hserved
  exact Option.some.inj hserved

end Wiki

end EntityAudit
