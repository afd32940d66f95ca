import EntityAudit.Proofs.Cache.Transparency
import Mathlib.Data.List.Count
import Mathlib.Data.List.Perm.Basic

namespace EntityAudit

lemma count_flatMap_tagged {α β : Type} [DecidableEq α] [DecidableEq β] (f : α → List β) (xs : List α)
    (a : α) (b : β) :
    (xs.flatMap fun x => (f x).map (Prod.mk x)).count (a, b) = xs.count a * (f a).count b := by
  induction xs with
  | nil => simp
  | cons x xs ih =>
    rw [List.flatMap_cons, List.count_append, ih, List.count_cons]
    by_cases hx : x = a
    · subst hx
      rw [List.count_map_of_injective _ _ (Prod.mk_right_injective x), beq_self_eq_true, if_pos rfl,
        Nat.add_mul, Nat.one_mul, Nat.add_comm]
    · have hnone : ((f x).map (Prod.mk x)).count (a, b) = 0 := by
        rw [List.count_eq_zero, List.mem_map]
        rintro ⟨c, -, hc⟩
        exact hx (Prod.mk.inj hc).1
      simp [hnone, hx]

lemma perm_of_flatMap_tagged {α β : Type} {f g : α → List β} {xs : List α} {a : α}
    (h : (xs.flatMap fun x => (f x).map (Prod.mk x)).Perm (xs.flatMap fun x => (g x).map (Prod.mk x)))
    (ha : a ∈ xs) : (f a).Perm (g a) := by
  classical
  rw [List.perm_iff_count]
  intro b
  have hcount := h.count_eq (a, b)
  rw [count_flatMap_tagged, count_flatMap_tagged] at hcount
  exact Nat.eq_of_mul_eq_mul_left (List.count_pos_iff.mpr ha) hcount

namespace Auditor

def Labels (G : Pair → Result) : Prop :=
  ∀ p, (G p).cursor.snakProperty = p.1.property ∧ (G p).constraint = p.2

lemma labels_outcomeOf (a : Auditor) : Labels fun p => (a.outcomeOf p).ageless := fun _ => ⟨rfl, rfl⟩

lemma perm_of_map_pairing {G H : Pair → Result} (hG : Labels G) (hH : Labels H) {xs : List Context}
    {f g : PropertyId → List Constraint} (h : ((pairing xs f).map G).Perm ((pairing xs g).map H))
    {x : Context} (hx : x ∈ xs) : (f x.property).Perm (g x.property) := by
  have htags : ∀ {G : Pair → Result} {f : PropertyId → List Constraint}, Labels G →
      ((pairing xs f).map G).map (fun r => (r.cursor.snakProperty, r.constraint)) =
        (xs.map Context.property).flatMap fun p => (f p).map (Prod.mk p) := by
    intro G f hG
    rw [List.flatMap_map, pairing, List.map_flatMap, List.map_flatMap]
    simp only [List.map_map, Function.comp_def, (hG _).1, (hG _).2]
  have hperm := h.map fun r => (r.cursor.snakProperty, r.constraint)
  rw [htags hG, htags hH] at hperm
  exact perm_of_flatMap_tagged hperm (List.mem_map_of_mem hx)

end Auditor

lemma Query.asks_all (entities : List EntityId) (r : Result) : ({ entities } : Query).asks r = true := by
  unfold asks
  cases r.status
  all_goals rfl

namespace Wiki

variable (k : Wiki)

def settled (o : Scene) (p : PropertyId) : List Constraint :=
  (k.constraints o.store p).filter fun c => !(k.deployed o.store).doubts c

def recheckedIds (o : Scene) (id : EntityId) : List String := ((k.deployed o.store).doubted o id).map (·.2.id)

def unchecked (o w : Scene) (id : EntityId) (p : PropertyId) : List Constraint :=
  (k.constraints w.store p).filter fun c => !(k.recheckedIds o id).contains c.id

def kept (o : Scene) (id : EntityId) (s : Scene) : List Result :=
  (((k.auditor o).pairs id).filter ((k.deployed o.store).keeps o)).map fun p =>
    ((k.auditor s).outcomeOf p).ageless

def rechecked (o w : Scene) (id : EntityId) : List Result :=
  (((k.auditor w).pairs id).filter fun p => (k.recheckedIds o id).contains p.2.id).map fun p =>
    ((k.auditor w).outcomeOf p).ageless

/-- What was kept in the first scene is right in the second one: it is on the constraints that no check
looks at again, and has the same results. -/
structure Upholds (o w : Scene) (id : EntityId) : Prop where
  constraints : ∀ x ∈ (k.auditor o).contexts id,
    (k.settled o x.property).Perm (k.unchecked o w id x.property)
  results : (k.kept o id o).Perm (k.kept o id w)

variable {k} {o w : Scene} {id : EntityId} {e : CacheEntry}

lemma find?_of_fresh (how : o.Precedes w) (hfill : (k.source o).fill id = some e)
    (hfresh : (k.source w).isFresh e = true) {a : EntityId}
    (ha : a ∈ (k.deployed o.store).dependencies o id) : w.store.find? a = o.store.find? a := by
  rw [source, isFresh_deployed, ← k.isFresh_deployed o.store w] at hfresh
  exact Deployment.find?_of_fresh how hfill hfresh ha

section

variable (hstatuses : ∀ s, k.config.cachedStatuses.contains s = true)

include hstatuses

lemma pairs_kept (o : Scene) (id : EntityId) :
    ((k.auditor o).pairs id).filter ((k.deployed o.store).keeps o) =
      Auditor.pairing ((k.auditor o).contexts id) (k.settled o) := by
  have hkeeps : (k.deployed o.store).keeps o = fun p => !(k.deployed o.store).doubts p.2 := by
    funext p
    have hstores : (k.deployed o.store).stores o p = true := hstatuses _
    rw [Deployment.keeps, hstores, Bool.and_true]
  rw [hkeeps, Auditor.pairs_eq_pairing]
  exact Auditor.filter_pairing (fun c => !(k.deployed o.store).doubts c) _ _

lemma kept_eq (o : Scene) (id : EntityId) (s : Scene) :
    k.kept o id s = (Auditor.pairing ((k.auditor o).contexts id) (k.settled o)).map fun p =>
      ((k.auditor s).outcomeOf p).ageless := by
  rw [kept, pairs_kept hstatuses]

lemma served_ageless (hfill : (k.source o).fill id = some e) :
    ((k.source w).served id e).map Result.ageless = k.kept o id o ++ k.rechecked o w id := by
  obtain ⟨age, hserved⟩ := Deployment.served_eq_append (k.deployed w.store) w id e
  have hdoubtful : ((k.deployed w.store).source w).isDoubtful = ((k.deployed o.store).source w).isDoubtful := by
    rw [isDoubtful_deployed, isDoubtful_deployed]
  have hfilled : ((k.deployed o.store).source o).fill id = some e := hfill
  have hall : ∀ l : List Result,
      l.filter (fun r => (k.deployed w.store).config.cachedStatuses.contains r.status) = l :=
    fun l => List.filter_eq_self.mpr fun r _ => hstatuses r.status
  rw [hdoubtful, Deployment.results_kept hfilled, Deployment.ids_doubted hfilled, hall] at hserved
  rw [source, hserved, List.map_append, Result.map_ageless_withMetadata, List.map_map, List.map_map]
  rfl

omit hstatuses in
lemma entityResults_perm (hcontexts : (k.auditor w).contexts id = (k.auditor o).contexts id) :
    (((k.auditor w).entityResults id none none).map Result.ageless).Perm
      ((Auditor.pairing ((k.auditor o).contexts id) (k.unchecked o w id)).map
        (fun p => ((k.auditor w).outcomeOf p).ageless) ++ k.rechecked o w id) := by
  have hunchecked : (((k.auditor w).pairs id).filter fun p => !(k.recheckedIds o id).contains p.2.id) =
      Auditor.pairing ((k.auditor o).contexts id) (k.unchecked o w id) := by
    rw [Auditor.pairs_eq_pairing, hcontexts]
    exact Auditor.filter_pairing (fun c => !(k.recheckedIds o id).contains c.id) _ _
  have hsplit := (List.filter_append_perm (fun p => (k.recheckedIds o id).contains p.2.id)
    ((k.auditor w).pairs id)).map fun p => ((k.auditor w).outcomeOf p).ageless
  rw [List.map_append, hunchecked] at hsplit
  rw [auditor, Deployment.entityResults_auditor, ← auditor, List.map_map]
  exact hsplit.symm.trans List.perm_append_comm

lemma served_perm_iff (how : o.Precedes w) (hfill : (k.source o).fill id = some e)
    (hfresh : (k.source w).isFresh e = true) :
    (((k.source w).served id e).map Result.ageless).Perm
        (((k.auditor w).entityResults id none none).map Result.ageless) ↔ k.Upholds o w id := by
  have hcontexts : (k.auditor w).contexts id = (k.auditor o).contexts id :=
    Auditor.contexts_congr (find?_of_fresh how hfill hfresh (Deployment.mem_dependencies_self _ o id))
  rw [served_ageless hstatuses hfill, (entityResults_perm hcontexts).congr_right,
    List.perm_append_right_iff, kept_eq hstatuses]
  constructor
  · intro hperm
    have hconstraints : ∀ x ∈ (k.auditor o).contexts id,
        (k.settled o x.property).Perm (k.unchecked o w id x.property) := by
      intro x hx
      exact Auditor.perm_of_map_pairing (Auditor.labels_outcomeOf _) (Auditor.labels_outcomeOf _) hperm hx
    refine ⟨hconstraints, ?_⟩
    rw [kept_eq hstatuses, kept_eq hstatuses]
    exact hperm.trans ((Auditor.pairing_perm hconstraints).map _).symm
  · rintro ⟨hconstraints, hresults⟩
    rw [kept_eq hstatuses, kept_eq hstatuses] at hresults
    exact hresults.trans ((Auditor.pairing_perm hconstraints).map _)

lemma settled_perm_unchecked (hdistinct : (k.deployed o.store).DistinctIds) {x : Context}
    (hx : x ∈ (k.auditor o).contexts id)
    (hsame : k.constraints w.store x.property = k.constraints o.store x.property) :
    (k.settled o x.property).Perm (k.unchecked o w id x.property) := by
  rw [settled, unchecked, hsame]
  refine List.Perm.of_eq (List.filter_congr fun c hc => congrArg _ ?_)
  have hp : (x, c) ∈ ((k.deployed o.store).auditor o).pairs id := by
    rw [Auditor.pairs_eq_pairing]
    exact List.mem_flatMap.mpr ⟨x, hx, List.mem_map_of_mem hc⟩
  change _ = (k.deployed o.store).rechecks o id (x, c)
  rw [Bool.eq_iff_iff]
  constructor
  · intro hdoubts
    exact Deployment.rechecks_of_stores hp hdoubts (hstatuses _)
  · exact Deployment.doubts_of_rechecks hdistinct hp

end

lemma outcomeOf_deployed (s t : Store) (w : Scene) :
    ((k.deployed s).auditor w).outcomeOf = ((k.deployed t).auditor w).outcomeOf := by
  funext p
  simp only [Auditor.outcomeOf, Auditor.outcome, Auditor.verdict, Auditor.judge, Auditor.roles,
    Auditor.weigh, Auditor.config, Deployment.auditor, Auditor.ofServices, deployed, Deployment.services]

lemma hides_deployed (s t : Store) (w : Scene) (x : Context) (c : Constraint) :
    ((k.deployed s).auditor w).Hides x c ↔ ((k.deployed t).auditor w).Hides x c := by
  simp only [Auditor.Hides, Auditor.settled?, Auditor.roles, Auditor.config, Deployment.auditor,
    Auditor.ofServices, deployed, Deployment.services]

lemma kept_perm_iff (how : o.Precedes w) (hfill : (k.source o).fill id = some e)
    (hfresh : (k.source w).isFresh e = true) (huntraced : (k.deployed o.store).DoubtsUntraced) :
    (k.kept o id o).Perm (k.kept o id w) ↔
      ∀ p ∈ (k.auditor o).pairs id, (k.deployed o.store).keeps o p = true →
        (k.auditor o).Hides p.1 p.2 → (k.auditor w).Hides p.1 p.2 := by
  have hfresh' : ((k.deployed o.store).source w).isFresh e = true := by
    rwa [isFresh_deployed, ← k.isFresh_deployed w.store w]
  have hdecides : Decides Result.ageless (Deployment.kindScore fun r => r.status = .badParameters) _ _ _ :=
    Deployment.kept_decides (q := {}) (fun _ h => h) how hfill hfresh' huntraced
      fun p _ hlingers => Auditor.status_of_hides hlingers.2.1
  have hall : ∀ l : List Result, l.filter (({} : Query).asks) = l :=
    fun l => List.filter_eq_self.mpr fun r _ => Query.asks_all [] r
  rw [hall, hall, outcomeOf_deployed o.store w.store w] at hdecides
  have hiff := hdecides.iff_perm fun _ => rfl
  rw [List.map_map, List.map_map] at hiff
  refine hiff.trans ⟨fun h p hp hkeeps ho => ?_, fun h p hp hlingers => ?_⟩
  · by_contra hw
    refine h p (List.mem_filter.mpr ⟨hp, hkeeps⟩) ⟨hkeeps, ho, ?_, .inl rfl⟩
    rwa [hides_deployed o.store w.store]
  · obtain ⟨hkeeps, ho, hw, -⟩ := hlingers
    rw [hides_deployed o.store w.store] at hw
    exact hw (h p (List.mem_filter.mp hp).1 hkeeps ho)

end Wiki

end EntityAudit
