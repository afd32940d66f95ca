import EntityAudit.Proofs.Cache.Entry

/-!
Which later changes of its dependencies an entry notices. Only known revisions are recorded, so a
dependency without one can come into being behind the back of the entry.
-/

namespace EntityAudit

namespace Store

inductive Edited (s : Store) : Store → Prop
  | refl : Edited s s
  | save {t : Store} (e : Entity) : Edited s t → Edited s (t.save e).1
  | delete {t u : Store} {id : EntityId} : Edited s t → t.delete id = .ok u → Edited s u

variable {s t : Store}

lemma Edited.precedes (h : s.Edited t) : s.Precedes t := by
  induction h with
  | refl => exact .refl s
  | save e _ ih => exact ih.trans (precedes_save _ e)
  | delete _ hd ih => exact ih.trans (precedes_delete hd)

lemma find?_of_redirect {id target : EntityId} (h : s.redirects.get? id = some target) :
    s.find? id = none := by
  simp [find?, load, h]

lemma find?_of_unknown {id : EntityId} (h : s.revision? id = none) : s.find? id = none := by
  rw [revision?, Option.map_eq_none_iff] at h
  rw [← Option.not_isSome_iff_eq_none, Option.isSome_iff_exists]
  rintro ⟨e, he⟩
  have hget := (find?_eq_some.mp he).2
  rw [h] at hget
  cases hget

lemma find?_save_self {e : Entity} (h : s.redirects.get? e.id = none) :
    (s.save e).1.find? e.id = some e := by
  refine find?_eq_some.mpr ⟨h, ?_⟩
  rw [get?_save, if_pos rfl]
  rfl

lemma revision?_save_of_ne {e : Entity} {id : EntityId} (h : e.id ≠ id) :
    (s.save e).1.revision? id = s.revision? id := by
  rw [revision?, revision?, get?_save, if_neg h]

end Store

lemma Moment.exists_all_isBefore (f : Option Moment) : ∃ now : Moment, f.all now.isBefore = true := by
  cases f with
  | none => exact ⟨⟨0, 0⟩, rfl⟩
  | some m =>
    refine ⟨⟨m.seconds - 1, 0⟩, ?_⟩
    rw [Option.all_some, isBefore_iff]
    left
    exact Int.sub_one_lt_of_le le_rfl

namespace Deployment

open Sample

variable {d : Deployment} {o m w : Scene} {id a : EntityId} {e : CacheEntry} {r : Result}

lemma mem_dependencies_of_mem_results (hentry : d.stamped o m id = some e) (hr : r ∈ e.results)
    (ha : r.metadata.entities.contains a = true) : a ∈ d.dependencies o id := by
  rw [(stamped_eq_some hentry).2.1] at hr
  apply List.mem_append_left
  rw [← SortedMap.contains_iff_mem_keys, metadata_checked, Metadata.contains_merge]
  exact ⟨_, List.mem_map_of_mem hr, ha⟩

lemma find?_of_fresh_stamped (hstore : m.store.WellRevised) (hmw : m.store.Precedes w.store)
    (hentry : d.stamped o m id = some e) (hfresh : (d.source w).isFresh e = true)
    (ha : a ∈ d.dependencies o id) (hknown : m.store.revision? a ≠ none) :
    w.store.find? a = m.store.find? a := by
  apply (hmw.sharesVersions hstore).find?_eq
  exact ((isFresh_stamped_iff hentry).mp hfresh).2 a ha hknown

lemma exists_fresh_scene (hentry : d.stamped o m id = some e) {s : Store}
    (hs : ∀ b, m.store.revision? b ≠ none → s.revision? b = m.store.revision? b) :
    ∃ w : Scene, w.store = s ∧ (d.source w).isFresh e = true := by
  obtain ⟨now, hnow⟩ := Moment.exists_all_isBefore ((d.source o).checked id).metadata.future
  refine ⟨{ store := s, now }, rfl, ?_⟩
  exact (isFresh_stamped_iff hentry).mpr ⟨hnow, fun b _ hb => hs b hb⟩

lemma exists_fresh_creation (hentry : d.stamped o m id = some e) (hunknown : m.store.revision? a = none)
    (hredirect : m.store.redirects.get? a = none) :
    ∃ w : Scene, m.store.Edited w.store ∧ w.store.find? a ≠ none ∧ (d.source w).isFresh e = true := by
  have hrecorded : ∀ b, m.store.revision? b ≠ none →
      (m.store.save (.empty a)).1.revision? b = m.store.revision? b := by
    intro b hb
    apply Store.revision?_save_of_ne
    rintro rfl
    exact hb hunknown
  obtain ⟨w, hw, hfresh⟩ := exists_fresh_scene hentry hrecorded
  have hcreated : (m.store.save (.empty a)).1.find? a = some (.empty a) := Store.find?_save_self hredirect
  refine ⟨w, hw ▸ .save _ .refl, ?_, hfresh⟩
  rw [hw, hcreated]
  exact Option.some_ne_none _

/-- Every later change of a dependency is noticed exactly if the dependency looked as in the check when
the revisions were read, and had one or can never be loaded. -/
theorem changes_noticed_iff (hstore : m.store.Reachable) (hentry : d.stamped o m id = some e)
    (hr : r ∈ e.results) (ha : r.metadata.entities.contains a = true) :
    (∀ w : Scene, m.store.Edited w.store → w.store.find? a ≠ o.store.find? a →
        (d.source w).isFresh e = false) ↔
      m.store.find? a = o.store.find? a ∧
        (m.store.revision? a ≠ none ∨ m.store.redirects.get? a ≠ none) := by
  constructor
  · intro hnoticed
    have hloaded : ∀ w : Scene, m.store.Edited w.store → (d.source w).isFresh e = true →
        w.store.find? a = o.store.find? a := by
      intro w hw hfresh
      by_contra hne
      rw [hnoticed w hw hne] at hfresh
      cases hfresh
    have hsame : m.store.find? a = o.store.find? a := by
      obtain ⟨w, hw, hfresh⟩ := exists_fresh_scene hentry fun _ _ => rfl
      rw [← hw]
      exact hloaded w (hw ▸ .refl) hfresh
    refine ⟨hsame, ?_⟩
    by_contra hnone
    push Not at hnone
    obtain ⟨hunknown, hredirect⟩ := hnone
    obtain ⟨w, hw, hcreated, hfresh⟩ := exists_fresh_creation hentry hunknown hredirect
    apply hcreated
    rw [hloaded w hw hfresh, ← hsame]
    exact Store.find?_of_unknown hunknown
  · rintro ⟨hsame, hnoticeable⟩ w hw hne
    rw [← Bool.not_eq_true]
    intro hfresh
    apply hne
    rw [← hsame]
    rcases hnoticeable with hknown | hredirect
    · apply find?_of_fresh_stamped hstore.wellRevised hw.precedes hentry hfresh _ hknown
      exact mem_dependencies_of_mem_results hentry hr ha
    · obtain ⟨target, htarget⟩ := Option.ne_none_iff_exists'.mp hredirect
      have hlater : w.store.redirects.get? a = some target := by rw [hw.precedes.redirects, htarget]
      rw [Store.find?_of_redirect htarget, Store.find?_of_redirect hlater]

theorem marriage_noticed :
    let d := marriages {} []
    let o := (registry [married ⟨1⟩ ⟨2⟩, .empty (.item ⟨2⟩)]).toScene
    let w : Scene := { o with store := (o.store.save (married ⟨2⟩ ⟨1⟩)).1 }
    ∃ e, (d.source o).fill (.item ⟨1⟩) = some e ∧
      (∃ r ∈ e.results, r.metadata.entities.contains (.item ⟨2⟩) = true) ∧
        (d.source w).isFresh e = false := by
  intro d o w
  have hsome : ((d.source o).fill (.item ⟨1⟩)).isSome = true := by decide
  have hany : (((d.source o).checked (.item ⟨1⟩)).results.any
      (·.metadata.entities.contains (.item ⟨2⟩))) = true := by decide
  obtain ⟨e, he⟩ := Option.isSome_iff_exists.mp hsome
  obtain ⟨r, hr, ha⟩ := List.any_eq_true.mp hany
  rw [← (fill_eq_some he).2.1] at hr
  refine ⟨e, he, ⟨r, hr, ha⟩, ?_⟩
  have hnoticed := (changes_noticed_iff (reachable_registry _) he hr ha).mpr ⟨rfl, .inl (by decide)⟩
  apply hnoticed w (.save _ .refl)
  have hbefore : (o.store.find? (.item ⟨2⟩)).map (·.statements.toList.length) = some 0 := by decide
  have hafter : (w.store.find? (.item ⟨2⟩)).map (·.statements.toList.length) = some 1 := by decide
  intro hsame
  rw [hsame, hbefore] at hafter
  cases hafter

theorem creation_unnoticed :
    let d := marriages {} []
    let o := (registry [married ⟨1⟩ ⟨2⟩]).toScene
    let w : Scene := { o with store := (o.store.save (married ⟨2⟩ ⟨1⟩)).1 }
    ∃ e, (d.source o).fill (.item ⟨1⟩) = some e ∧
      (∃ r ∈ e.results, r.metadata.entities.contains (.item ⟨2⟩) = true) ∧
      o.store.Edited w.store ∧ o.store.find? (.item ⟨2⟩) = none ∧ w.store.find? (.item ⟨2⟩) ≠ none ∧
        (d.source w).isFresh e = true ∧ e.results.map (·.status) = [.warning] ∧
          ((d.source w).checked (.item ⟨1⟩)).results.map (·.status) = [] := by
  intro d o w
  have hsome : ((d.source o).fill (.item ⟨1⟩)).isSome = true := by decide
  have hany : (((d.source o).checked (.item ⟨1⟩)).results.any
      (·.metadata.entities.contains (.item ⟨2⟩))) = true := by decide
  have hloaded : (w.store.find? (.item ⟨2⟩)).isSome = true := by decide
  obtain ⟨e, he⟩ := Option.isSome_iff_exists.mp hsome
  obtain ⟨r, hr, ha⟩ := List.any_eq_true.mp hany
  have hresults := (fill_eq_some he).2.1
  refine ⟨e, he, ⟨r, hresults ▸ hr, ha⟩, .save _ .refl, rfl, Option.isSome_iff_ne_none.mp hloaded, ?_, ?_,
    by decide⟩
  · refine (isFresh_iff he).mpr ⟨by decide, fun a _ hknown => Store.revision?_save_of_ne ?_⟩
    rintro rfl
    apply hknown
    rfl
  · rw [hresults]
    decide

end Deployment

end EntityAudit
