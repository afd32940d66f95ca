import EntityAudit.Proofs.Cache.Decides
import EntityAudit.Proofs.Cache.Served

/-!
The answer to a request next to a check in the same world. It differs in two ways: a stored result
hides a violation that is gone, and a result that was not stored would be one that is asked for.
-/

namespace EntityAudit

namespace Deployment

variable (d : Deployment)

/-- The stored result of a violation that was hidden, while there is another result now and one of
the two is asked for. -/
def Lingers (o w : Scene) (q : Query) (p : Auditor.Pair) : Prop :=
  d.keeps o p = true ∧ (d.auditor o).Hides p.1 p.2 ∧ ¬ (d.auditor w).Hides p.1 p.2 ∧
    (q.statuses.contains .badParameters = true ∨ q.asks ((d.auditor w).outcomeOf p) = true)

def Overlooks (o w : Scene) (id : EntityId) (q : Query) (p : Auditor.Pair) : Prop :=
  d.skips o id p = true ∧ q.asks ((d.auditor w).outcomeOf p) = true

def DoubtsUntraced : Prop :=
  ∀ c, d.doubts c = false → (Catalog.ofTypes d.config.constraintTypes).Traces d.config c.type

variable {σ : Type} [CacheStore σ]

structure Serves (w : World σ) (q : Query) (id : EntityId) (e : CacheEntry) : Prop where
  answers : (d.source w.toScene).answers q = true
  asked : id ∈ q.entities
  hit : (d.source w.toScene).hit? w.cache id = some e

structure Reuses (P : Scene → Event → Prop) (u o w : World σ) (q : Query) (id : EntityId)
    (p : Auditor.Pair) : Prop where
  entry : ∃ e, d.Serves w q id e ∧ d.Origin P u o w id e
  mem : p ∈ (d.auditor o.toScene).pairs id

variable {d} {o w : Scene} {id : EntityId} {e : CacheEntry} {q : Query} {p : Auditor.Pair}
  {view : Result → Result} {score : Result → Int} {g h : Prop}

lemma doubtsUntraced_of_default (htypes : d.config.constraintTypes = {})
    (hstale : d.config.possiblyStaleTypes = ({} : Config).possiblyStaleTypes) : d.DoubtsUntraced := by
  intro c hc
  rw [doubts, hstale, ← Bool.not_eq_true, List.contains_iff_mem] at hc
  simp only [List.mem_cons, List.not_mem_nil, or_false, not_or] at hc
  obtain ⟨hlink, htype, hvalue, hunique⟩ := hc
  rw [htypes]
  exact Catalog.traces_of_ne hunique hlink fun _ => ⟨htype, hvalue⟩

lemma entityResults_auditor (d : Deployment) (w : Scene) (id : EntityId) :
    (d.auditor w).entityResults id none none =
      ((d.auditor w).pairs id).map (d.auditor w).outcomeOf := by
  rw [Auditor.entityResults_eq]
  simp only [Option.all_none, List.filter_true]

lemma not_lingers_of_weight {weight : Option Weight} (h : Parameters.weight d.config p.2 = .ok weight) :
    ¬ d.Lingers o w q p := by
  rintro ⟨-, ⟨-, -, e, -, -, -, -, hweight⟩, -⟩
  change Parameters.weight d.config p.2 = .error e at hweight
  rw [h] at hweight
  cases hweight

lemma doubts_of_keeps (h : d.keeps o p = true) : d.doubts p.2 = false :=
  (Bool.not_eq_true' _).mp (Bool.and_eq_true _ _ ▸ h).1

lemma kept_of_not_lingers (how : o.Precedes w) (hfill : (d.source o).fill id = some e)
    (hfresh : (d.source w).isFresh e = true) (huntraced : d.DoubtsUntraced)
    (hp : p ∈ (d.auditor o).pairs id) (hkeeps : d.keeps o p = true) (hnot : ¬ d.Lingers o w q p) :
    [(d.auditor o).outcomeOf p].filter q.asks = [(d.auditor w).outcomeOf p].filter q.asks := by
  have hiff := outcomeOf_eq_iff_of_fresh how hfill hfresh hp (Bool.and_eq_true _ _ ▸ hkeeps).2
    (huntraced p.2 (doubts_of_keeps hkeeps))
  by_cases hgone : (d.auditor o).Hides p.1 p.2 ∧ ¬ (d.auditor w).Hides p.1 p.2
  · obtain ⟨ho, hw⟩ := hgone
    have hunasked : ¬ (q.statuses.contains .badParameters = true ∨
        q.asks ((d.auditor w).outcomeOf p) = true) := fun hasked => hnot ⟨hkeeps, ho, hw, hasked⟩
    have hstatus : ((d.auditor o).outcomeOf p).status = .badParameters := Auditor.status_of_hides ho
    have hold : ¬ q.asks ((d.auditor o).outcomeOf p) = true := by
      rw [Query.asks, hstatus]
      exact fun hbad => hunasked (.inl hbad)
    rw [List.filter_cons_of_neg hold, List.filter_cons_of_neg fun hasked => hunasked (.inr hasked)]
  · rw [hiff.mpr fun ho => by_contra fun hw => hgone ⟨ho, hw⟩]

lemma served_decides (how : o.Precedes w) (hfill : (d.source o).fill id = some e)
    (hfresh : (d.source w).isFresh e = true) (hdistinct : d.DistinctIds)
    (hanswers : (d.source w).answers q = true) (hview : ∀ r, view r.ageless = view r)
    (hscore : ∀ r, score (view r) = score r)
    (hkept : Decides view score g
      (((((d.auditor o).pairs id).filter (d.keeps o)).map (d.auditor o).outcomeOf).filter q.asks)
      (((((d.auditor o).pairs id).filter (d.keeps o)).map (d.auditor w).outcomeOf).filter q.asks))
    (hskipped : Decides view score h []
      (((((d.auditor o).pairs id).filter (d.skips o id)).map (d.auditor w).outcomeOf).filter q.asks)) :
    Decides view score (g ∧ h) (((d.source w).served id e).filter q.asks)
      (((d.auditor w).entityResults id none none).filter q.asks) := by
  have hq : ∀ s, q.statuses.contains s = true → d.config.cachedStatuses.contains s = true := by
    have hall := (Bool.and_eq_true _ _ ▸ hanswers).2
    intro s hs
    exact List.all_eq_true.mp hall s (List.contains_iff_mem.mp hs)
  have hserved : (((d.source w).served id e).filter q.asks).map view =
      (((((d.auditor o).pairs id).filter (d.keeps o)).map (d.auditor o).outcomeOf ++
        (((d.auditor o).pairs id).filter (d.rechecks o id)).map (d.auditor w).outcomeOf).filter
          q.asks).map view := by
    have hview' : ∀ l : List Result, l.map view = (l.map Result.ageless).map view := by
      intro l
      rw [List.map_map]
      exact List.map_congr_left fun r _ => (hview r).symm
    rw [hview', served_view how hfill hfresh hq, ← hview']
  have hcheck := ((pairs_perm o id hdistinct).map (d.auditor w).outcomeOf).filter q.asks
  rw [entityResults_auditor, pairs_of_fresh how hfill hfresh]
  refine Decides.perm_right ?_ hcheck
  refine Decides.perm_left ?_ (List.Perm.of_eq hserved) hscore
  have hrechecked : Decides view score True
      (((((d.auditor o).pairs id).filter (d.rechecks o id)).map (d.auditor w).outcomeOf).filter q.asks)
      (((((d.auditor o).pairs id).filter (d.rechecks o id)).map (d.auditor w).outcomeOf).filter q.asks) :=
    .same trivial _
  have hjoined := hkept.append (hrechecked.append hskipped)
  simp only [List.map_append, List.filter_append, List.append_nil] at hjoined ⊢
  exact hjoined.imp (and_congr_right fun _ => iff_of_eq (true_and h))

def kindScore (F : Result → Prop) [DecidablePred F] (r : Result) : Int := if F r then -1 else 1

lemma lingers_decides {F : Result → Prop} [DecidablePred F] (hbad : ∀ r, F r → r.status = .badParameters)
    (how : o.Precedes w) (hfill : (d.source o).fill id = some e)
    (hfresh : (d.source w).isFresh e = true) (huntraced : d.DoubtsUntraced)
    (hp : p ∈ (d.auditor o).pairs id) (hkeeps : d.keeps o p = true)
    (hkind : d.Lingers o w q p → F ((d.auditor o).outcomeOf p)) :
    Decides view (kindScore F) (¬ d.Lingers o w q p) ([(d.auditor o).outcomeOf p].filter q.asks)
      ([(d.auditor w).outcomeOf p].filter q.asks) := by
  by_cases hlingers : d.Lingers o w q p
  · have hlt : (([(d.auditor o).outcomeOf p].filter q.asks).map (kindScore F)).sum <
        (([(d.auditor w).outcomeOf p].filter q.asks).map (kindScore F)).sum := by
      have hold := hkind hlingers
      obtain ⟨-, ho, hw, hasked⟩ := hlingers
      have hnew : ¬ F ((d.auditor w).outcomeOf p) := fun h =>
        (d.matches_auditor o w).status_ne_of_hides (huntraced p.2 (doubts_of_keeps hkeeps)) ho hw (hbad _ h)
      have hstatus : ((d.auditor o).outcomeOf p).status = .badParameters := Auditor.status_of_hides ho
      by_cases hasks : q.statuses.contains .badParameters = true
      · have hasked' : q.asks ((d.auditor o).outcomeOf p) = true := by rw [Query.asks, hstatus, hasks]
        rw [List.filter_cons_of_pos hasked', List.filter_cons]
        split
        · simp [kindScore, hold, hnew]
        · simp [kindScore, hold]
      · have hasked' : ¬ q.asks ((d.auditor o).outcomeOf p) = true := by rwa [Query.asks, hstatus]
        rw [List.filter_cons_of_neg hasked', List.filter_cons_of_pos (hasked.resolve_left hasks)]
        simp [kindScore, hnew]
    exact ⟨fun hnot => absurd hlingers hnot, hlt.le, fun _ => hlt⟩
  · rw [kept_of_not_lingers how hfill hfresh huntraced hp hkeeps hlingers]
    exact .same hlingers _

lemma filter_asks_map (q : Query) (f : Auditor.Pair → Result) (l : List Auditor.Pair) :
    (l.map f).filter q.asks = l.flatMap fun p => [f p].filter q.asks := by
  induction l with
  | nil => rfl
  | cons p l ih =>
    rw [List.map_cons, List.flatMap_cons, ← ih, List.filter_cons, List.filter_cons]
    split
    · rfl
    · rfl

lemma kept_decides {F : Result → Prop} [DecidablePred F] (hbad : ∀ r, F r → r.status = .badParameters)
    (how : o.Precedes w) (hfill : (d.source o).fill id = some e)
    (hfresh : (d.source w).isFresh e = true) (huntraced : d.DoubtsUntraced)
    (hlingers : ∀ p ∈ (d.auditor o).pairs id, d.Lingers o w q p → F ((d.auditor o).outcomeOf p)) :
    Decides view (kindScore F) (∀ p ∈ ((d.auditor o).pairs id).filter (d.keeps o), ¬ d.Lingers o w q p)
      (((((d.auditor o).pairs id).filter (d.keeps o)).map (d.auditor o).outcomeOf).filter q.asks)
      (((((d.auditor o).pairs id).filter (d.keeps o)).map (d.auditor w).outcomeOf).filter q.asks) := by
  rw [filter_asks_map, filter_asks_map]
  refine .flatMap fun p hp => ?_
  obtain ⟨hmem, hkeeps⟩ := List.mem_filter.mp hp
  exact lingers_decides hbad how hfill hfresh huntraced hmem hkeeps (hlingers p hmem)

lemma overlooks_decides {F : Result → Prop} [DecidablePred F] (hskips : d.skips o id p = true)
    (hkind : d.Overlooks o w id q p → ¬ F ((d.auditor w).outcomeOf p)) :
    Decides view (kindScore F) (¬ d.Overlooks o w id q p) []
      ([(d.auditor w).outcomeOf p].filter q.asks) := by
  by_cases hasks : q.asks ((d.auditor w).outcomeOf p) = true
  · have hoverlooks : d.Overlooks o w id q p := ⟨hskips, hasks⟩
    have hnew := hkind hoverlooks
    rw [List.filter_cons_of_pos hasks]
    refine ⟨fun hnot => absurd hoverlooks hnot, ?_, fun _ => ?_⟩
    · simp [kindScore, hnew]
    · simp [kindScore, hnew]
  · rw [List.filter_cons_of_neg hasks]
    exact .same (fun hoverlooks => hasks hoverlooks.2) []

lemma served_decides_of_apart {F : Result → Prop} [DecidablePred F]
    (hbad : ∀ r, F r → r.status = .badParameters) (hview : ∀ r, view r.ageless = view r)
    (hF : ∀ r, F (view r) ↔ F r) (hdistinct : d.DistinctIds) (huntraced : d.DoubtsUntraced)
    (how : o.Precedes w) (hfill : (d.source o).fill id = some e)
    (hfresh : (d.source w).isFresh e = true) (hanswers : (d.source w).answers q = true)
    (hlingers : ∀ p ∈ (d.auditor o).pairs id, d.Lingers o w q p → F ((d.auditor o).outcomeOf p))
    (hoverlooks : ∀ p ∈ (d.auditor o).pairs id, d.Overlooks o w id q p →
      ¬ F ((d.auditor w).outcomeOf p)) :
    Decides view (kindScore F)
      (∀ p ∈ (d.auditor o).pairs id, ¬ d.Lingers o w q p ∧ ¬ d.Overlooks o w id q p)
      (((d.source w).served id e).filter q.asks)
      (((d.auditor w).entityResults id none none).filter q.asks) := by
  have hscore : ∀ r, kindScore F (view r) = kindScore F r := by
    intro r
    simp only [kindScore, hF]
  have hskipped : Decides view (kindScore F)
      (∀ p ∈ ((d.auditor o).pairs id).filter (d.skips o id), ¬ d.Overlooks o w id q p)
      [] (((((d.auditor o).pairs id).filter (d.skips o id)).map (d.auditor w).outcomeOf).filter q.asks) := by
    rw [filter_asks_map]
    refine .nil_flatMap fun p hp => ?_
    obtain ⟨hmem, hskips⟩ := List.mem_filter.mp hp
    exact overlooks_decides hskips (hoverlooks p hmem)
  have hkept : Decides view (kindScore F) _ _ _ := kept_decides hbad how hfill hfresh huntraced hlingers
  refine (served_decides how hfill hfresh hdistinct hanswers hview hscore hkept hskipped).imp ⟨?_, ?_⟩
  · rintro ⟨hkeep, hskip⟩ p hp
    exact ⟨fun h => hkeep p (List.mem_filter.mpr ⟨hp, h.1⟩) h,
      fun h => hskip p (List.mem_filter.mpr ⟨hp, h.1⟩) h⟩
  · intro h
    exact ⟨fun p hp => (h p (List.mem_filter.mp hp).1).1, fun p hp => (h p (List.mem_filter.mp hp).1).2⟩

lemma subset_of_answers {w : Scene} (h : (d.source w).answers q = true) {s : Status}
    (hs : q.statuses.contains s = true) : d.config.cachedStatuses.contains s = true :=
  List.all_eq_true.mp (Bool.and_eq_true _ _ ▸ h).2 s (List.contains_iff_mem.mp hs)

lemma checked_decides (hanswers : (d.source w).answers q = true) :
    Decides view score True (((d.source w).checked id).results.filter q.asks)
      (((d.auditor w).entityResults id none none).filter q.asks) := by
  rw [results_checked, entityResults_auditor,
    Query.filter_asks_of_subset fun s => subset_of_answers hanswers]
  exact .same trivial _

lemma answer_of_not_answers {w : World σ} (h : ¬ (d.source w.toScene).answers q = true) :
    d.answer w q = (d.auditor w.toScene).source q := by
  rw [answer, CachedSource.results, if_neg h]
  rfl

lemma entitiesResults_decides [LawfulCache σ] {w : World σ} {G : EntityId → Prop} {ids : List EntityId}
    (hone : ∀ id ∈ ids, ∀ l, (d.source w.toScene).Answers w.cache id l →
      Decides view score (G id) (l.filter q.asks)
        (((d.auditor w.toScene).entityResults id none none).filter q.asks))
    {later : σ} (hextends : (d.source w.toScene).Extends w.cache later) :
    Decides view score (∀ id ∈ ids, G id)
      (((d.source w.toScene).entitiesResults later ids).1.filter q.asks)
      ((ids.flatMap ((d.auditor w.toScene).entityResults · none none)).filter q.asks) := by
  induction ids generalizing later with
  | nil => exact .same (by simp) []
  | cons id ids ih =>
    have hfirst := hone id List.mem_cons_self _ (hextends.answers id)
    have hrest := ih (fun a ha => hone a (List.mem_cons_of_mem _ ha)) (hextends.entityResults id)
    rw [List.flatMap_cons, List.filter_append]
    simp only [CachedSource.entitiesResults, List.filter_append]
    exact (hfirst.append hrest).imp List.forall_mem_cons.symm

lemma answer_results {w : World σ} (hanswers : (d.source w.toScene).answers q = true) :
    (d.answer w q).results =
      ((d.source w.toScene).entitiesResults w.cache q.entities).1.filter q.asks ++
        (q.claims.flatMap ((d.auditor w.toScene).claimResults · none)).filter q.asks := by
  have hclaims : (if q.claims.isEmpty then [] else ((d.source w.toScene).inner
      { claims := q.claims, statuses := q.statuses }).results).filter q.asks =
        (q.claims.flatMap ((d.auditor w.toScene).claimResults · none)).filter q.asks := by
    split
    · rename_i hempty
      rw [List.isEmpty_iff.mp hempty]
      rfl
    · change ((List.nil ++ q.claims.flatMap ((d.auditor w.toScene).claimResults · none)).filter
        q.asks).filter q.asks = _
      rw [List.nil_append, List.filter_filter]
      simp only [Bool.and_self]
  rw [answer, CachedSource.results, if_pos hanswers, ← hclaims, ← List.filter_append]
  rfl

lemma source_results (hanswers : (d.source w).answers q = true) :
    ((d.auditor w).source q).results =
      (q.entities.flatMap ((d.auditor w).entityResults · none none)).filter q.asks ++
        (q.claims.flatMap ((d.auditor w).claimResults · none)).filter q.asks := by
  have hconstraints : q.constraints = none :=
    Option.isNone_iff_eq_none.mp (Bool.and_eq_true _ _ ▸ hanswers).1
  rw [← List.filter_append, Auditor.source, hconstraints]
  rfl

lemma answer_decides [LawfulCache σ] {w : World σ} {G : EntityId → Prop}
    (hanswers : (d.source w.toScene).answers q = true)
    (hone : ∀ id ∈ q.entities, ∀ l, (d.source w.toScene).Answers w.cache id l →
      Decides view score (G id) (l.filter q.asks)
        (((d.auditor w.toScene).entityResults id none none).filter q.asks)) :
    Decides view score (∀ id ∈ q.entities, G id) (d.answer w q).results
      ((d.auditor w.toScene).source q).results := by
  have hentities := entitiesResults_decides hone (CachedSource.Extends.refl _ w.cache)
  rw [answer_results hanswers, source_results hanswers]
  exact (hentities.append (Decides.same trivial _)).imp (iff_of_eq (and_true _))

end Deployment

namespace Sample

open Deployment

lemma not_lingers_of_marriages {config : Config} {o w : Scene} {q : Query} {id : EntityId}
    {p : Auditor.Pair} (h : p ∈ ((marriages config []).auditor o).pairs id) :
    ¬ (marriages config []).Lingers o w q p := by
  have hweight : Parameters.weight (marriages config []).config p.2 = .ok none := by
    rw [eq_symmetry (mem_constraints_of_mem_pairs h)]
    rfl
  exact not_lingers_of_weight hweight

end Sample

end EntityAudit
