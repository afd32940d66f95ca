import EntityAudit.Proofs.Cache.Upheld

namespace EntityAudit

lemma Query.map_ageless_filter_asks (q : Query) {l m : List Result}
    (h : (l.map Result.ageless).Perm (m.map Result.ageless)) :
    ((l.filter q.asks).map Result.ageless).Perm ((m.filter q.asks).map Result.ageless) := by
  have hfilter : ∀ l : List Result,
      (l.filter q.asks).map Result.ageless = (l.map Result.ageless).filter q.asks := by
    intro l
    rw [List.filter_map]
    rfl
  rw [hfilter, hfilter]
  exact h.filter _

def Asking (ids : List EntityId) (_ : Scene) : Event → Prop
  | .ask q => ∀ id ∈ q.entities, id ∈ ids
  | _ => False

lemma resaved_of_asking {ids : List EntityId} (s : Scene) (event : Event) (h : Asking ids s event) :
    Resaved s event := by
  cases event with
  | ask => trivial
  | save => cases h
  | delete => cases h
  | tick => cases h
  | turn => cases h

namespace Wiki

variable {k : Wiki} {id : EntityId} {e : CacheEntry}

section

variable (hstatuses : ∀ s, k.config.cachedStatuses.contains s = true)

include hstatuses

lemma answers_entities (s : Scene) (ids : List EntityId) :
    (k.source s).answers { entities := ids } = true :=
  (Bool.and_eq_true _ _).mpr ⟨rfl, List.all_eq_true.mpr fun status _ => hstatuses status⟩

lemma results_checked (s : Scene) (id : EntityId) :
    ((k.source s).checked id).results = (k.auditor s).entityResults id none none := by
  rw [source, Deployment.results_checked, auditor, Deployment.entityResults_auditor]
  exact List.filter_eq_self.mpr fun r _ => hstatuses r.status

lemma source_entity (s : Scene) (id : EntityId) :
    ((k.auditor s).source { entities := [id] }).results = (k.auditor s).entityResults id none none := by
  rw [auditor, Deployment.source_results (answers_entities hstatuses s [id])]
  simp [Query.asks_all, List.filter_eq_self.mpr]

variable {σ : Type} [CacheStore σ] {u v w : World σ} {ids : List EntityId}

lemma answer_entity (hhit : (k.source v.toScene).hit? v.cache id = some e) :
    (k.answer v { entities := [id] }).results = (k.source v.toScene).served id e := by
  rw [answer, Deployment.answer_results (answers_entities hstatuses v.toScene [id])]
  change ((k.source v.toScene).entitiesResults v.cache [id]).1.filter _ ++ _ = _
  simp [CachedSource.entitiesResults, CachedSource.entityResults, hhit, Query.asks_all]

lemma cache_asked (v : World σ) (id : EntityId) :
    (k.step v (.ask { entities := [id] })).cache = ((k.source v.toScene).entityResults v.cache id).2 := by
  change ((k.source v.toScene).results v.cache { entities := [id] }).2 = _
  rw [CachedSource.results, if_pos (answers_entities hstatuses _ _)]
  rfl

lemma entitiesResults_perm
    (hserved : ∀ v, k.Run (Asking ids) w v → ∀ id ∈ ids, ∀ e,
      (k.source v.toScene).hit? v.cache id = some e →
        (((k.source v.toScene).served id e).map Result.ageless).Perm
          (((k.auditor v.toScene).entityResults id none none).map Result.ageless))
    (hv : k.Run (Asking ids) w v) {l : List EntityId} (hl : ∀ id ∈ l, id ∈ ids) :
    (((k.source v.toScene).entitiesResults v.cache l).1.map Result.ageless).Perm
      ((l.flatMap ((k.auditor v.toScene).entityResults · none none)).map Result.ageless) := by
  induction l generalizing v with
  | nil => exact .refl _
  | cons id l ih =>
    have hid : id ∈ ids := hl id List.mem_cons_self
    have hfirst : (((k.source v.toScene).entityResults v.cache id).1.map Result.ageless).Perm
        (((k.auditor v.toScene).entityResults id none none).map Result.ageless) := by
      rw [CachedSource.entityResults]
      cases hhit : (k.source v.toScene).hit? v.cache id with
      | some e => exact hserved v hv id hid e hhit
      | none =>
        change (((k.source v.toScene).checked id).results.map Result.ageless).Perm _
        rw [results_checked hstatuses]
    -- The rest is answered in the world after a request for this entity alone.
    have hasked : k.Run (Asking ids) w (k.step v (.ask { entities := [id] })) :=
      hv.step fun a ha => List.mem_singleton.mp ha ▸ hid
    have hrest := ih hasked fun a ha => hl a (List.mem_cons_of_mem _ ha)
    rw [cache_asked hstatuses] at hrest
    simp only [CachedSource.entitiesResults, List.flatMap_cons, List.map_append]
    exact hfirst.append hrest

lemma answers_perm_iff_served (ids : List EntityId) :
    (∀ v, k.Run (Asking ids) w v → ∀ q : Query, (∀ id ∈ q.entities, id ∈ ids) →
        ((k.answer v q).results.map Result.ageless).Perm
          (((k.auditor v.toScene).source q).results.map Result.ageless)) ↔
      ∀ v, k.Run (Asking ids) w v → ∀ id ∈ ids, ∀ e,
        (k.source v.toScene).hit? v.cache id = some e →
          (((k.source v.toScene).served id e).map Result.ageless).Perm
            (((k.auditor v.toScene).entityResults id none none).map Result.ageless) := by
  constructor
  · intro hsame v hv id hid e hhit
    have hentity := hsame v hv { entities := [id] } fun a ha => List.mem_singleton.mp ha ▸ hid
    rwa [answer_entity hstatuses hhit, source_entity hstatuses] at hentity
  · intro hserved v hv q hq
    by_cases hanswers : (k.source v.toScene).answers q = true
    · rw [answer, auditor, Deployment.answer_results hanswers, Deployment.source_results hanswers,
        List.map_append, List.map_append]
      exact (q.map_ageless_filter_asks (entitiesResults_perm hstatuses hserved hv hq)).append (.refl _)
    · rw [answer, auditor, Deployment.answer_of_not_answers hanswers]

end

variable {σ : Type} [CacheStore σ] {u o v w : World σ} {ids : List EntityId}

lemma Run.scene_of_asking (h : k.Run (Asking ids) w v) : v.toScene = w.toScene := by
  induction h with
  | refl => rfl
  | @step v event _ hp ih =>
    cases event with
    | ask => exact ih
    | save => cases hp
    | delete => cases hp
    | tick => cases hp
    | turn => cases hp

lemma Run.hit_of_asking [LawfulCache σ] (h : k.Run (Asking ids) w v)
    (hhit : (k.source w.toScene).hit? w.cache id = some e) :
    (k.source v.toScene).hit? v.cache id = some e := by
  induction h with
  | refl => exact hhit
  | @step v event _ hp ih =>
    cases event with
    | ask q =>
      rcases (k.source v.toScene).extends_results v.cache q id with hold | ⟨hmiss, -⟩
      · exact (CachedSource.hit?_congr hold).trans ih
      · cases hmiss.symm.trans ih
    | save => cases hp
    | delete => cases hp
    | tick => cases hp
    | turn => cases hp

lemma Origin.precedes_of_resaved (horigin : k.Origin Resaved u o w id e) (hstore : u.store.WellRevised) :
    o.toScene.Precedes w.toScene where
  wellRevised := horigin.before.wellRevised hstore
  store := horigin.after.precedes
  absent _ := horigin.after.absent Deployment.keepsAbsent_of_resaved
  clock := .inl horigin.after.now_eq

/-- Until the next edit, answers about some entities are those of checks exactly if all entries that they
come from are upheld. By rules that are traced, this is so as long as no hidden violation has gone, and
the constraints are those that the results were kept for. -/
theorem answers_perm_iff_upholds [LawfulCache σ] (hstatuses : ∀ s, k.config.cachedStatuses.contains s = true)
    (hstore : u.store.Reachable) (hempty : ∀ a, CacheStore.get u.cache a = .ok none)
    (hrun : k.Run Resaved u w) (ids : List EntityId) :
    ((∀ v, k.Run (Asking ids) w v → ∀ q : Query, (∀ id ∈ q.entities, id ∈ ids) →
        ((k.answer v q).results.map Result.ageless).Perm
          (((k.auditor v.toScene).source q).results.map Result.ageless)) ↔
      ∀ v, k.Run (Asking ids) w v → ∀ id ∈ ids, ∀ e, (k.source v.toScene).hit? v.cache id = some e →
        ∃ o, k.Origin Resaved u o v id e ∧ k.Upholds o.toScene v.toScene id) ∧
    ∀ id e o, (k.source w.toScene).hit? w.cache id = some e → k.Origin Resaved u o w id e →
      (k.deployed o.store).DoubtsUntraced →
        ((k.kept o.toScene id o.toScene).Perm (k.kept o.toScene id w.toScene) ↔
          ∀ p ∈ (k.auditor o.toScene).pairs id, (k.deployed o.store).keeps o.toScene p = true →
            (k.auditor o.toScene).Hides p.1 p.2 → (k.auditor w.toScene).Hides p.1 p.2) := by
  have hrevised := hstore.wellRevised
  constructor
  · rw [answers_perm_iff_served hstatuses]
    constructor
    · intro hserved v hv id hid e hhit
      obtain ⟨hget, hfresh⟩ := CachedSource.hit?_eq_some.mp hhit
      obtain ⟨o, horigin⟩ := (hrun.trans (hv.mono resaved_of_asking)).origin hempty hget
      have how := horigin.precedes_of_resaved hrevised
      exact ⟨o, horigin, (served_perm_iff hstatuses how horigin.filled hfresh).mp (hserved v hv id hid e hhit)⟩
    · intro hupholds v hv id hid e hhit
      obtain ⟨o, horigin, ho⟩ := hupholds v hv id hid e hhit
      have how := horigin.precedes_of_resaved hrevised
      exact (served_perm_iff hstatuses how horigin.filled (CachedSource.hit?_eq_some.mp hhit).2).mpr ho
  · intro id e o hhit horigin huntraced
    exact kept_perm_iff (horigin.precedes_of_resaved hrevised) horigin.filled
      (CachedSource.hit?_eq_some.mp hhit).2 huntraced

end Wiki

namespace Sample

def definition : Entity :=
  (Entity.empty (.property spouse)).add
    { guid := "P26$1", mainSnak := .value ⟨2302⟩ (.entity (.item ⟨21510862⟩)) }

def civil : Wiki := .ofEntities { cachedStatuses := Status.all } fun _ => none

def documented : Entity :=
  definition.add { guid := "P26$2", mainSnak := .value ⟨31⟩ (.entity (.item ⟨18608871⟩)) }

def firstMarried : World EntryCache := registry [definition, married ⟨1⟩ ⟨2⟩, .empty (.item ⟨2⟩)]

lemma eq_symmetry_of_firstMarried {p : PropertyId} {c : Constraint}
    (h : c ∈ civil.constraints firstMarried.store p) : c = symmetry [] := by
  change c ∈ ConstraintSource.ofEntities civil.config firstMarried.store.find? p at h
  unfold ConstraintSource.ofEntities at h
  split at h
  · rename_i x hx
    rcases Store.find?_save hx with rfl | hx
    · cases h
    · rcases Store.find?_save hx with rfl | hx
      · cases h
      · rcases Store.find?_save hx with rfl | hx
        · exact List.mem_singleton.mp h
        · cases hx
  · cases h

lemma distinctIds_firstMarried : (civil.deployed firstMarried.store).DistinctIds := by
  intro p q c hc c' hc' _
  rw [eq_symmetry_of_firstMarried hc, eq_symmetry_of_firstMarried hc']

lemma not_hides_of_firstMarried {id : EntityId} {p : Auditor.Pair}
    (hp : p ∈ (civil.auditor firstMarried.toScene).pairs id) :
    ¬ (civil.auditor firstMarried.toScene).Hides p.1 p.2 := by
  rintro ⟨-, -, e, -, -, -, -, hweight⟩
  rw [eq_symmetry_of_firstMarried (Deployment.mem_constraints_of_mem_pairs hp)] at hweight
  cases hweight

end Sample

namespace Wiki

open Sample

theorem documented_property_upheld :
    let q := onFirst civil.config
    let w := civil.step (civil.step firstMarried (.ask q)) (.save documented)
    (civil.answer w q).results.map (·.metadata.maxAge) = [some 0] ∧
      ∀ q : Query, (∀ id ∈ q.entities, id = .item ⟨1⟩) →
        ((civil.answer w q).results.map Result.ageless).Perm
          (((civil.auditor w.toScene).source q).results.map Result.ageless) := by
  intro q w
  have hstored : (civil.step firstMarried (.ask q)).store.entities.contains documented.id = true := by
    decide
  have hrun : civil.Run Resaved firstMarried w := .step (.step .refl trivial) hstored
  have hsome : ((civil.source w.toScene).hit? w.cache (.item ⟨1⟩)).isSome = true := by decide
  obtain ⟨e, he⟩ := Option.isSome_iff_exists.mp hsome
  have horigin : civil.Origin Resaved firstMarried firstMarried w (.item ⟨1⟩) e :=
    origin_of_request (fun _ => rfl) trivial hstored (CachedSource.hit?_eq_some.mp he).1
  have hstatuses : ∀ s, civil.config.cachedStatuses.contains s = true := by
    intro s
    cases s
    all_goals rfl
  have hspouse : ((civil.auditor firstMarried.toScene).contexts (.item ⟨1⟩)).all
      (·.property = spouse) = true := by decide
  have hanswers := answers_perm_iff_upholds hstatuses (reachable_registry _) (fun _ => rfl) hrun
    [.item ⟨1⟩]
  have hupholds : civil.Upholds firstMarried.toScene w.toScene (.item ⟨1⟩) := by
    constructor
    · intro x hx
      apply settled_perm_unchecked hstatuses distinctIds_firstMarried hx
      rw [of_decide_eq_true (List.all_eq_true.mp hspouse x hx)]
      rfl
    · refine (hanswers.2 _ e firstMarried he horigin
        (Deployment.doubtsUntraced_of_default rfl rfl)).mpr fun p hp _ hhides => ?_
      exact absurd hhides (not_hides_of_firstMarried hp)
  refine ⟨by decide, fun q hq => ?_⟩
  refine hanswers.1.mpr ?_ w .refl q fun id hid => List.mem_singleton.mpr (hq id hid)
  intro v hv id hid e' hhit
  obtain rfl := List.mem_singleton.mp hid
  obtain rfl := Option.some.inj ((hv.hit_of_asking he).symm.trans hhit)
  refine ⟨firstMarried, ⟨.refl, hrun.trans (hv.mono resaved_of_asking), horigin.filled⟩, ?_⟩
  rw [hv.scene_of_asking]
  exact hupholds

theorem withdrawn_constraint_served :
    let q := onFirst civil.config
    let w := civil.step (civil.step firstMarried (.ask q)) (.save (.empty (.property spouse)))
    civil.Run Resaved firstMarried w ∧ (civil.answer w q).results.map (·.status) = [.warning] ∧
      ((civil.auditor w.toScene).source q).results.map (·.status) = [] := by
  intro q w
  have hstored : (civil.step firstMarried (.ask q)).store.entities.contains (.property spouse) = true := by
    decide
  exact ⟨.step (.step .refl trivial) hstored, by decide, by decide⟩

end Wiki

end EntityAudit
