import EntityAudit.Proofs.Cache.Answer

/-!
When the answers of a source with a cache are those of checks in the same world: if all statuses are
stored, exactly where no stored result lingers; with the statuses stored by default and while
entities are only saved again, exactly where no result is overlooked.
-/

namespace EntityAudit

/-- Entities are saved again or deleted, pages change, and the clock moves on. All times are days of
the calendar. -/
def Regular (s : Scene) : Event → Prop
  | .save e => s.store.entities.contains e.id = true ∧ e.IsDated
  | .tick now => now.isBefore s.now = false ∧ now.InCalendar
  | .delete _ => True
  | .turn _ => True
  | .ask _ => True

def Resaved (s : Scene) : Event → Prop
  | .save e => s.store.entities.contains e.id = true
  | .ask _ => True
  | _ => False

lemma Wiki.Run.now_eq {k : Wiki} {σ : Type} [CacheStore σ] {u w : World σ} (h : k.Run Resaved u w) :
    w.now = u.now := by
  induction h with
  | refl => rfl
  | @step w event _ hp ih =>
    cases event with
    | save => exact ih
    | delete => cases hp
    | tick => cases hp
    | turn => cases hp
    | ask => exact ih

namespace Deployment

open Sample

variable {d : Deployment} {σ : Type} [CacheStore σ] {P : Scene → Event → Prop} {u o w : World σ}
  {id : EntityId} {e : CacheEntry} {q : Query} {p : Auditor.Pair} {view : Result → Result}
  {score : Result → Int}

lemma Origin.precedes (horigin : d.Origin P u o w id e) (hstore : u.store.WellRevised)
    (hP : ∀ s event, P s event → event.KeepsAbsent s)
    (hclock : w.now = o.now ∨ o.toScene.OnCalendar ∧ w.now.InCalendar ∧ w.now.isBefore o.now = false) :
    o.toScene.Precedes w.toScene where
  wellRevised := horigin.before.wellRevised hstore
  store := horigin.after.precedes
  absent _ := horigin.after.absent hP
  clock := hclock

lemma step_onCalendar {event : Event} (h : w.toScene.OnCalendar) (hevent : Regular w.toScene event) :
    (d.step w event).toScene.OnCalendar := by
  cases event with
  | save e =>
    refine ⟨h.now, fun a x hx => ?_⟩
    rcases Store.find?_save hx with rfl | hold
    · exact hevent.2
    · exact h.dated a x hold
  | delete a =>
    rcases step_delete d w a with hsame | ⟨store, hd, hstep⟩
    · rwa [hsame]
    · rw [hstep]
      exact ⟨h.now, fun b x hx => h.dated b x (Store.find?_delete hd hx)⟩
  | tick now => exact ⟨hevent.2, h.dated⟩
  | turn => exact ⟨h.now, h.dated⟩
  | ask => exact ⟨h.now, h.dated⟩

lemma Run.onCalendar (h : d.Run Regular u w) (hu : u.toScene.OnCalendar) : w.toScene.OnCalendar := by
  induction h with
  | refl => exact hu
  | step _ hp ih => exact step_onCalendar ih hp

lemma Run.now_notBefore (h : d.Run Regular u w) : w.now.isBefore u.now = false := by
  induction h with
  | refl => exact Moment.isBefore_self _
  | @step w event _ hp ih =>
    cases event with
    | tick now => exact Moment.notBefore_trans ih hp.1
    | delete a =>
      rcases step_delete d w a with hsame | ⟨store, -, hstep⟩
      · rwa [hsame]
      · rw [hstep]
        exact ih
    | save => exact ih
    | turn => exact ih
    | ask => exact ih

lemma keepsAbsent_of_regular (s : Scene) (event : Event) (h : Regular s event) :
    event.KeepsAbsent s := by
  cases event with
  | save => exact h.1
  | delete => trivial
  | tick => trivial
  | turn => trivial
  | ask => trivial

lemma Origin.precedes_of_regular (horigin : d.Origin Regular u o w id e) (hstore : u.store.WellRevised)
    (hcalendar : u.toScene.OnCalendar) : o.toScene.Precedes w.toScene := by
  have ho := horigin.before.onCalendar hcalendar
  refine horigin.precedes hstore keepsAbsent_of_regular (.inr ⟨ho, ?_, horigin.after.now_notBefore⟩)
  exact (horigin.after.onCalendar ho).now

lemma keepsAbsent_of_resaved (s : Scene) (event : Event) (h : Resaved s event) :
    event.KeepsAbsent s := by
  cases event with
  | save => exact h
  | delete => cases h
  | tick => cases h
  | turn => cases h
  | ask => trivial

lemma Origin.precedes_of_resaved (horigin : d.Origin Resaved u o w id e)
    (hstore : u.store.WellRevised) : o.toScene.Precedes w.toScene :=
  horigin.precedes hstore keepsAbsent_of_resaved (.inl (Wiki.run_ofDeployment.mpr horigin.after).now_eq)

lemma rechecks_of_stores {o : Scene} (hp : p ∈ (d.auditor o).pairs id) (hdoubts : d.doubts p.2 = true)
    (hstores : d.stores o p = true) : d.rechecks o id p = true := by
  have hmem : p ∈ d.doubted o id := by
    refine List.mem_filter.mpr ⟨hp, ?_⟩
    rw [hdoubts, hstores]
    rfl
  exact List.contains_iff_mem.mpr (List.mem_map_of_mem hmem)

lemma skips_eq_false {o : Scene} (hp : p ∈ (d.auditor o).pairs id) (hstores : d.stores o p = true) :
    d.skips o id p = false := by
  rw [skips, keeps, hstores, Bool.and_true]
  cases hdoubts : d.doubts p.2 with
  | false => rfl
  | true =>
    rw [rechecks_of_stores hp hdoubts hstores]
    rfl

lemma not_overlooks_of_stores {o w : Scene} (hp : p ∈ (d.auditor o).pairs id)
    (hstores : d.stores o p = true) : ¬ d.Overlooks o w id q p := by
  rintro ⟨hskips, -⟩
  rw [skips_eq_false hp hstores] at hskips
  cases hskips

lemma not_lingers_self {w : Scene} : ¬ d.Lingers w w q p :=
  fun hlingers => hlingers.2.2.1 hlingers.2.1

lemma not_overlooks_self {w : Scene} (hanswers : (d.source w).answers q = true)
    (hp : p ∈ (d.auditor w).pairs id) : ¬ d.Overlooks w w id q p :=
  fun hoverlooks =>
    not_overlooks_of_stores hp (subset_of_answers (w := w) hanswers hoverlooks.2) hoverlooks

section

variable (view : Result → Result) (F : Result → Prop) [DecidablePred F]
  (hbad : ∀ r, F r → r.status = .badParameters) (hview : ∀ r, view r.ageless = view r)
  (hF : ∀ r, F (view r) ↔ F r) (hdistinct : d.DistinctIds) (huntraced : d.DoubtsUntraced)
  (hstore : u.store.WellRevised) (hempty : ∀ a, CacheStore.get u.cache a = .ok none)
  (hrun : d.Run P u w) (hprecedes : ∀ id e o, d.Origin P u o w id e → o.toScene.Precedes w.toScene)
  (hlingers : ∀ o id p, d.Reuses P u o w q id p → d.Lingers o.toScene w.toScene q p →
    F ((d.auditor o.toScene).outcomeOf p))
  (hoverlooks : ∀ o id p, d.Reuses P u o w q id p → d.Overlooks o.toScene w.toScene id q p →
    ¬ F ((d.auditor w.toScene).outcomeOf p))

include hbad hview hF hdistinct huntraced hstore hempty hrun hprecedes hlingers hoverlooks

lemma entity_decides_of_apart [LawfulCache σ] {l : List Result}
    (hanswers : (d.source w.toScene).answers q = true) (hid : id ∈ q.entities)
    (hl : (d.source w.toScene).Answers w.cache id l) :
    Decides view (kindScore F) (∀ o p, d.Reuses P u o w q id p →
        ¬ d.Lingers o.toScene w.toScene q p ∧ ¬ d.Overlooks o.toScene w.toScene id q p)
      (l.filter q.asks) (((d.auditor w.toScene).entityResults id none none).filter q.asks) := by
  have hunused : (d.source w.toScene).hit? w.cache id = none → ∀ o p, ¬ d.Reuses P u o w q id p := by
    rintro hmiss o p ⟨⟨e, hserves, -⟩, -⟩
    cases hmiss.symm.trans hserves.hit
  cases hl with
  | @hit e hhit =>
    obtain ⟨o, horigin⟩ := hrun.origin hempty (CachedSource.hit?_eq_some.mp hhit).1
    have hserves : d.Serves w q id e := ⟨hanswers, hid, hhit⟩
    have hall := Decides.all (P := fun o => d.Origin P u o w id e) horigin fun o ho =>
      served_decides_of_apart hbad hview hF hdistinct huntraced (hprecedes id e o ho) ho.filled
        (CachedSource.hit?_eq_some.mp hhit).2 hanswers
        (fun p hp => hlingers o id p ⟨⟨e, hserves, ho⟩, hp⟩)
        (fun p hp => hoverlooks o id p ⟨⟨e, hserves, ho⟩, hp⟩)
    refine hall.imp ⟨fun h o p hreuses => ?_, fun h o ho p hp => ?_⟩
    · obtain ⟨⟨e', hserves', ho⟩, hp⟩ := hreuses
      obtain rfl := Option.some.inj (hhit.symm.trans hserves'.hit)
      exact h o ho p hp
    · exact h o p ⟨⟨e, hserves, ho⟩, hp⟩
  | checked hmiss =>
    exact (checked_decides hanswers).imp
      (iff_of_true trivial fun o p hreuses => absurd hreuses (hunused hmiss o p))
  | filled hmiss hfill hfresh =>
    have hself := served_decides_of_apart hbad hview hF hdistinct huntraced
      (.refl (hrun.wellRevised hstore)) hfill hfresh hanswers
      (fun p _ h => absurd h not_lingers_self)
      (fun p hp h => absurd h (not_overlooks_self hanswers hp))
    exact hself.imp (iff_of_true (fun p hp => ⟨not_lingers_self, not_overlooks_self hanswers hp⟩)
      fun o p hreuses => absurd hreuses (hunused hmiss o p))

lemma perm_iff_of_apart [LawfulCache σ] :
    ((d.answer w q).results.map view).Perm (((d.auditor w.toScene).source q).results.map view) ↔
      ∀ o id p, d.Reuses P u o w q id p →
        ¬ d.Lingers o.toScene w.toScene q p ∧ ¬ d.Overlooks o.toScene w.toScene id q p := by
  have hscore : ∀ r, kindScore F (view r) = kindScore F r := by
    intro r
    simp only [kindScore, hF]
  by_cases hanswers : (d.source w.toScene).answers q = true
  · have hdecides := answer_decides hanswers fun id hid l =>
      entity_decides_of_apart view F hbad hview hF hdistinct huntraced hstore hempty hrun hprecedes
        hlingers hoverlooks hanswers hid
    rw [hdecides.iff_perm hscore]
    constructor
    · intro h o id p hreuses
      obtain ⟨e, hserves, -⟩ := hreuses.entry
      exact h id hserves.asked o p hreuses
    · intro h id _ o p
      exact h o id p
  · rw [answer_of_not_answers hanswers]
    refine iff_of_true (.refl _) ?_
    rintro o id p ⟨⟨e, hserves, -⟩, -⟩
    exact absurd hserves.answers hanswers

end

/-- With all statuses stored, the cache shows in an answer exactly where a stored result lingers. -/
theorem answer_perm_iff_not_lingers [LawfulCache σ]
    (hstatuses : ∀ s, d.config.cachedStatuses.contains s = true)
    (htypes : d.config.constraintTypes = {})
    (hstale : d.config.possiblyStaleTypes = ({} : Config).possiblyStaleTypes)
    (hdistinct : d.DistinctIds) (hstore : u.store.Reachable) (hcalendar : u.toScene.OnCalendar)
    (hempty : ∀ a, CacheStore.get u.cache a = .ok none) (hrun : d.Run Regular u w) (q : Query) :
    ((d.answer w q).results.map Result.ageless).Perm
        (((d.auditor w.toScene).source q).results.map Result.ageless) ↔
      ∀ o id p, d.Reuses Regular u o w q id p → ¬ d.Lingers o.toScene w.toScene q p := by
  have hnot : ∀ o id p, d.Reuses Regular u o w q id p → ¬ d.Overlooks o.toScene w.toScene id q p :=
    fun o id p hreuses => not_overlooks_of_stores hreuses.mem (hstatuses _)
  rw [perm_iff_of_apart Result.ageless (fun r => r.status = .badParameters) (fun _ h => h) (fun _ => rfl)
    (fun _ => .rfl) hdistinct (doubtsUntraced_of_default htypes hstale) hstore.wellRevised hempty hrun
    (fun id e o ho => ho.precedes_of_regular hstore.wellRevised hcalendar)
    (fun o id p _ hlingers => Auditor.status_of_hides hlingers.2.1)
    (fun o id p hreuses hoverlooks => absurd hoverlooks (hnot o id p hreuses))]
  constructor
  · intro h o id p hreuses
    exact (h o id p hreuses).1
  · intro h o id p hreuses
    exact ⟨h o id p hreuses, hnot o id p hreuses⟩

theorem answer_of_marriage :
    let d := marriages { cachedStatuses := Status.all } []
    let q := onFirst d.config
    let u := registry [married ⟨1⟩ ⟨2⟩, .empty (.item ⟨2⟩)]
    let w := d.step (d.step u (.ask q)) (.tick ⟨5, 0⟩)
    (d.answer w q).results.map (·.metadata.maxAge) = [some 5] ∧
      ((d.answer w q).results.map Result.ageless).Perm
        (((d.auditor w.toScene).source q).results.map Result.ageless) := by
  intro d q u w
  have hrun : d.Run Regular u w := by
    refine .step (.step .refl trivial) ⟨by decide, ?_⟩
    unfold Moment.InCalendar
    decide
  have hcalendar : u.toScene.OnCalendar := by
    refine onCalendar_registry fun e he => ?_
    rcases List.mem_pair.mp he with rfl | rfl
    · exact isDated_married _ _
    · exact isDated_empty _
  refine ⟨by decide, ?_⟩
  refine (answer_perm_iff_not_lingers (fun s => ?_) rfl rfl (distinctIds_marriages _ _)
    (reachable_registry _) hcalendar (fun _ => rfl) hrun q).mpr fun o id p hreuses => ?_
  · cases s <;> rfl
  · exact not_lingers_of_marriages hreuses.mem

theorem hidden_violation_served :
    let d := marriages { cachedStatuses := Status.all } [⟨5⟩]
    let q := onFirst d.config
    let u := registry [married ⟨1⟩ ⟨2⟩, .empty (.item ⟨2⟩)]
    let w := d.step (d.step u (.ask q)) (.save (married ⟨2⟩ ⟨1⟩))
    d.Run Regular u w ∧ (d.answer w q).results.map (·.status) = [.badParameters] ∧
      ((d.auditor w.toScene).source q).results.map (·.status) = [.compliance] := by
  intro d q u w
  exact ⟨.step (.step .refl trivial) ⟨by decide, isDated_married _ _⟩, by decide,
    by decide⟩

/-- While entities are only saved again, the answer is that of a check where nothing lingers and nothing
is overlooked. Elsewhere it is another one, unless a result that lingers looks just as one that is
overlooked, and makes up for it. -/
theorem answer_perm_of_not_overlooks [LawfulCache σ] (htypes : d.config.constraintTypes = {})
    (hstale : d.config.possiblyStaleTypes = ({} : Config).possiblyStaleTypes)
    (hdistinct : d.DistinctIds) (hstore : u.store.Reachable)
    (hempty : ∀ a, CacheStore.get u.cache a = .ok none) (hrun : d.Run Resaved u w) (q : Query) :
    let Same : Prop := ((d.answer w q).results.map Result.finding).Perm
      (((d.auditor w.toScene).source q).results.map Result.finding)
    let Sound : Prop := ∀ o id p, d.Reuses Resaved u o w q id p →
      ¬ d.Lingers o.toScene w.toScene q p ∧ ¬ d.Overlooks o.toScene w.toScene id q p
    (Sound → Same) ∧ (Same → Sound ∨ ∃ o id p o' id' p', d.Reuses Resaved u o w q id p ∧
      d.Lingers o.toScene w.toScene q p ∧ d.Reuses Resaved u o' w q id' p' ∧
      d.Overlooks o'.toScene w.toScene id' q p' ∧
      ((d.auditor o.toScene).outcomeOf p).finding = ((d.auditor w.toScene).outcomeOf p').finding) := by
  classical
  intro Same Sound
  have huntraced := doubtsUntraced_of_default htypes hstale
  have hprecedes : ∀ id e o, d.Origin Resaved u o w id e → o.toScene.Precedes w.toScene :=
    fun id e o ho => ho.precedes_of_resaved hstore.wellRevised
  constructor
  · intro hsound
    exact (perm_iff_of_apart Result.finding (fun _ => False) (fun _ h => h.elim) (fun _ => rfl)
      (fun _ => .rfl) hdistinct huntraced hstore.wellRevised hempty hrun hprecedes
      (fun o id p hreuses => (hsound o id p hreuses).1) (fun _ _ _ _ _ => id)).mpr hsound
  · intro hsame
    by_cases hmeet : ∃ o id p o' id' p', d.Reuses Resaved u o w q id p ∧
        d.Lingers o.toScene w.toScene q p ∧ d.Reuses Resaved u o' w q id' p' ∧
        d.Overlooks o'.toScene w.toScene id' q p' ∧
        ((d.auditor o.toScene).outcomeOf p).finding = ((d.auditor w.toScene).outcomeOf p').finding
    · exact .inr hmeet
    · refine .inl ((perm_iff_of_apart Result.finding (fun r => r.status = .badParameters ∧
        ∃ o id p, d.Reuses Resaved u o w q id p ∧ d.Lingers o.toScene w.toScene q p ∧
          ((d.auditor o.toScene).outcomeOf p).finding = r.finding) (fun _ h => h.1) (fun _ => rfl)
        (fun _ => .rfl) hdistinct huntraced hstore.wellRevised hempty hrun hprecedes ?_ ?_).mp hsame)
      · intro o id p hreuses hlingers
        exact ⟨Auditor.status_of_hides hlingers.2.1, o, id, p, hreuses, hlingers, rfl⟩
      · rintro o' id' p' hreuses' hoverlooks ⟨-, o, id, p, hreuses, hlingers, hfinding⟩
        exact hmeet ⟨o, id, p, o', id', p', hreuses, hlingers, hreuses', hoverlooks, hfinding⟩

theorem unstored_violation_overlooked :
    let d := marriages {} []
    let q := onFirst d.config
    let u := registry [married ⟨1⟩ ⟨2⟩, married ⟨2⟩ ⟨1⟩]
    let w := d.step (d.step u (.ask q)) (.save (.empty (.item ⟨2⟩)))
    d.Run Resaved u w ∧ (d.answer w q).results.map (·.status) = [] ∧
      ((d.auditor w.toScene).source q).results.map (·.status) = [.warning] := by
  intro d q u w
  have hstored : (d.step u (.ask q)).store.entities.contains (.item ⟨2⟩) = true := by decide
  exact ⟨.step (.step .refl trivial) hstored, by decide, by decide⟩

theorem overlooked_of_divorce :
    let d := marriages {} []
    let q := onFirst d.config
    let u := registry [married ⟨1⟩ ⟨2⟩, married ⟨2⟩ ⟨1⟩]
    let w := d.step (d.step u (.ask q)) (.save (.empty (.item ⟨2⟩)))
    ∃ o id p, d.Reuses Resaved u o w q id p ∧ d.Overlooks o.toScene w.toScene id q p := by
  intro d q u w
  have hstored : (d.step u (.ask q)).store.entities.contains (.item ⟨2⟩) = true := by decide
  have hrun : d.Run Resaved u w := .step (.step .refl trivial) hstored
  have hsound := (answer_perm_of_not_overlooks rfl rfl (distinctIds_marriages _ _)
    (reachable_registry _) (fun _ => rfl) hrun q).1
  by_contra hnone
  have hsame := hsound fun o id p hreuses => ⟨?_, fun hoverlooks => hnone ⟨o, id, p, hreuses, hoverlooks⟩⟩
  · have hlength := hsame.length_eq
    rw [List.length_map, List.length_map] at hlength
    revert hlength
    decide
  · exact not_lingers_of_marriages hreuses.mem

end Deployment

end EntityAudit
