import EntityAudit.Proofs.Ordered.Lookup
import EntityAudit.Store
import Mathlib.Order.Nat

/-!
Revisions stand for versions: between two stores of one history, an identifier with one revision
has one entity, and a look-up sees the same.
-/

namespace EntityAudit.Store

inductive Reachable : Store → Prop
  | empty : Reachable .empty
  | save {s : Store} (e : Entity) : Reachable s → Reachable (s.save e).1
  | delete {s t : Store} {id : EntityId} : Reachable s → s.delete id = .ok t → Reachable t
  | addRedirect {s : Store} (source target : EntityId) :
      Reachable s → Reachable (s.addRedirect source target)

def WellRevised (s : Store) : Prop :=
  ∀ id x, s.entities.get? id = some x → x.revision ≤ s.lastRevision

structure Precedes (s t : Store) : Prop where
  redirects : t.redirects = s.redirects
  lastRevision_le : s.lastRevision ≤ t.lastRevision
  old_or_new : ∀ id x, t.entities.get? id = some x →
    s.entities.get? id = some x ∨ s.lastRevision < x.revision

/-- A revision that both stores have for an identifier stands for the same version. -/
structure SharesVersions (s t : Store) : Prop where
  redirects : t.redirects = s.redirects
  version : ∀ id x y, s.entities.get? id = some x → t.entities.get? id = some y →
    x.revision = y.revision → x = y

variable {s t u : Store}

lemma get?_save (s : Store) (e : Entity) (id : EntityId) :
    (s.save e).1.entities.get? id =
      if e.id = id then some ⟨e, s.lastRevision + 1⟩ else s.entities.get? id :=
  SortedMap.get?_insert _ _ _ _

lemma get?_delete {id : EntityId} (h : s.delete id = .ok t) (a : EntityId) :
    t.entities.get? a = if id = a then none else s.entities.get? a := by
  unfold delete at h
  split at h
  · obtain rfl := Except.ok.inj h
    exact SortedMap.get?_erase _ _ _
  · cases h

lemma delete_fields {id : EntityId} (h : s.delete id = .ok t) :
    t.redirects = s.redirects ∧ t.lastRevision = s.lastRevision := by
  unfold delete at h
  split at h
  · obtain rfl := Except.ok.inj h
    exact ⟨rfl, rfl⟩
  · cases h

lemma Precedes.refl (s : Store) : s.Precedes s where
  redirects := rfl
  lastRevision_le := le_rfl
  old_or_new _ _ h := .inl h

lemma Precedes.trans (hst : s.Precedes t) (htu : t.Precedes u) : s.Precedes u where
  redirects := htu.redirects.trans hst.redirects
  lastRevision_le := hst.lastRevision_le.trans htu.lastRevision_le
  old_or_new id x hx := by
    rcases htu.old_or_new id x hx with hx | hx
    · exact hst.old_or_new id x hx
    · exact .inr (hst.lastRevision_le.trans_lt hx)

lemma precedes_save (s : Store) (e : Entity) : s.Precedes (s.save e).1 where
  redirects := rfl
  lastRevision_le := Nat.le_succ _
  old_or_new id x hx := by
    rw [get?_save] at hx
    split at hx
    · obtain rfl := Option.some.inj hx
      exact .inr (Nat.lt_succ_self _)
    · exact .inl hx

lemma precedes_delete {id : EntityId} (h : s.delete id = .ok t) : s.Precedes t where
  redirects := (delete_fields h).1
  lastRevision_le := (delete_fields h).2.ge
  old_or_new a x hx := by
    rw [get?_delete h] at hx
    split at hx
    · cases hx
    · exact .inl hx

lemma WellRevised.save (hs : s.WellRevised) (e : Entity) : (s.save e).1.WellRevised := by
  intro id x hx
  rw [get?_save] at hx
  split at hx
  · obtain rfl := Option.some.inj hx
    exact le_rfl
  · exact (hs id x hx).trans (Nat.le_succ _)

lemma WellRevised.delete {id : EntityId} (hs : s.WellRevised) (h : s.delete id = .ok t) :
    t.WellRevised := by
  intro a x hx
  rw [get?_delete h] at hx
  rw [(delete_fields h).2]
  split at hx
  · cases hx
  · exact hs a x hx

lemma Reachable.wellRevised (h : s.Reachable) : s.WellRevised := by
  induction h with
  | empty =>
    intro id x hx
    cases hx
  | save e _ ih => exact ih.save e
  | delete _ hd ih => exact ih.delete hd
  | addRedirect _ _ _ ih => exact ih

lemma Reachable.id_of_get? (h : s.Reachable) {id : EntityId} {x : Stored}
    (hx : s.entities.get? id = some x) : x.entity.id = id := by
  induction h with
  | empty => cases hx
  | save e _ ih =>
    rw [get?_save] at hx
    split at hx
    · obtain rfl := Option.some.inj hx
      assumption
    · exact ih hx
  | delete _ hd ih =>
    rw [get?_delete hd] at hx
    split at hx
    · cases hx
    · exact ih hx
  | addRedirect _ _ _ ih => exact ih hx

lemma Precedes.sharesVersions (hs : s.WellRevised) (h : s.Precedes t) : s.SharesVersions t where
  redirects := h.redirects
  version id x y hx hy hr := by
    rcases h.old_or_new id y hy with hold | hlt
    · exact Option.some.inj (hx.symm.trans hold)
    · have hle := hs id x hx
      omega

lemma revision?_eq_some {id : EntityId} {n : Nat} :
    s.revision? id = some n ↔ ∃ x, s.entities.get? id = some x ∧ x.revision = n :=
  Option.map_eq_some_iff

lemma Precedes.revision?_eq (hs : s.WellRevised) (hst : s.Precedes t) (htu : t.Precedes u) {id : EntityId}
    (hn : s.revision? id ≠ none) (h : u.revision? id = s.revision? id) :
    t.revision? id = s.revision? id := by
  obtain ⟨n, hn⟩ := Option.ne_none_iff_exists'.mp hn
  obtain ⟨x, hx, hxn⟩ := revision?_eq_some.mp hn
  obtain ⟨y, hy, hyn⟩ := revision?_eq_some.mp (h.trans hn)
  rcases htu.old_or_new id y hy with hold | hlt
  · rw [hn]
    exact revision?_eq_some.mpr ⟨y, hold, hyn⟩
  · have hle := hs id x hx
    have hlast := hst.lastRevision_le
    omega

lemma SharesVersions.get?_eq (h : s.SharesVersions t) {id : EntityId}
    (hr : t.revision? id = s.revision? id) : t.entities.get? id = s.entities.get? id := by
  unfold revision? at hr
  cases hs : s.entities.get? id with
  | none => simpa [hs] using hr
  | some x =>
    obtain ⟨y, hy, hxy⟩ := Option.map_eq_some_iff.mp (hr.trans (by rw [hs]; rfl))
    rw [hy, h.version id x y hs hy hxy.symm]

lemma SharesVersions.find?_eq (h : s.SharesVersions t) {id : EntityId}
    (hr : t.revision? id = s.revision? id) : t.find? id = s.find? id := by
  simp only [find?, load, h.redirects, h.get?_eq hr]

lemma find?_eq_some {id : EntityId} {e : Entity} :
    s.find? id = some e ↔
      s.redirects.get? id = none ∧ (s.entities.get? id).map (·.entity) = some e := by
  unfold find? load
  cases s.redirects.get? id with
  | none => simp
  | some target => simp

lemma Reachable.id_of_find? (h : s.Reachable) {id : EntityId} {e : Entity} (he : s.find? id = some e) :
    e.id = id := by
  obtain ⟨x, hx, rfl⟩ := Option.map_eq_some_iff.mp (find?_eq_some.mp he).2
  exact h.id_of_get? hx

lemma find?_save {e : Entity} {id : EntityId} {x : Entity} (h : (s.save e).1.find? id = some x) :
    x = e ∨ s.find? id = some x := by
  obtain ⟨hredirect, hget⟩ := find?_eq_some.mp h
  rw [get?_save] at hget
  split at hget
  · exact .inl (Option.some.inj hget).symm
  · exact .inr (find?_eq_some.mpr ⟨hredirect, hget⟩)

lemma find?_save_of_ne {s : Store} {e : Entity} {id : EntityId} (h : e.id ≠ id) :
    (s.save e).1.find? id = s.find? id := by
  have hredirects : (s.save e).1.redirects = s.redirects := rfl
  simp only [find?, load, hredirects, get?_save, if_neg h]

lemma find?_delete {a id : EntityId} {x : Entity} (h : s.delete a = .ok t) (hx : t.find? id = some x) :
    s.find? id = some x := by
  obtain ⟨hredirect, hget⟩ := find?_eq_some.mp hx
  rw [(delete_fields h).1] at hredirect
  rw [get?_delete h] at hget
  split at hget
  · cases hget
  · exact find?_eq_some.mpr ⟨hredirect, hget⟩

lemma get?_revisions (s : Store) (ids : List EntityId) (id : EntityId) :
    (s.revisions ids).get? id = if id ∈ ids then s.revision? id else none := by
  have hl : ∀ e ∈ ids.filterMap fun id => (s.revision? id).map fun n => (id, n),
      s.revision? e.1 = some e.2 := by
    intro e he
    obtain ⟨a, -, ha⟩ := List.mem_filterMap.mp he
    obtain ⟨n, hn, rfl⟩ := Option.map_eq_some_iff.mp ha
    exact hn
  rw [revisions, SortedMap.ofList, SortedMap.get?_foldl_insert hl, SortedMap.get?_empty]
  by_cases hid : id ∈ ids
  · cases hn : s.revision? id with
    | none => simp [hid]
    | some n =>
      have hmem : id ∈ (ids.filterMap fun id => (s.revision? id).map fun n => (id, n)).map (·.1) :=
        List.mem_map.mpr ⟨(id, n), List.mem_filterMap.mpr ⟨id, hid, by simp [hn]⟩, rfl⟩
      simp [hid, hmem]
  · have hmem : id ∉ (ids.filterMap fun id => (s.revision? id).map fun n => (id, n)).map (·.1) := by
      intro h
      obtain ⟨e, he, rfl⟩ := List.mem_map.mp h
      obtain ⟨a, ha, hae⟩ := List.mem_filterMap.mp he
      obtain ⟨n, -, rfl⟩ := Option.map_eq_some_iff.mp hae
      exact hid ha
    rw [if_neg hmem, if_neg hid]

lemma revisions_keys_eq_iff (s t : Store) (ids : List EntityId) :
    t.revisions (s.revisions ids).keys = s.revisions ids ↔
      ∀ id ∈ ids, s.revision? id ≠ none → t.revision? id = s.revision? id := by
  have hkeys : ∀ id, id ∈ (s.revisions ids).keys ↔ id ∈ ids ∧ s.revision? id ≠ none := by
    intro id
    rw [← SortedMap.contains_iff_mem_keys, SortedMap.contains, get?_revisions]
    by_cases hid : id ∈ ids <;> simp [hid, Option.isSome_iff_ne_none]
  constructor
  · intro h id hid hn
    have hget := congrArg (·.get? id) h
    simpa [get?_revisions, hkeys, hid, hn] using hget
  · intro h
    apply SortedMap.ext_get?
    intro id
    simp only [get?_revisions, hkeys]
    by_cases hid : id ∈ ids
    · by_cases hn : s.revision? id = none
      · simp [hid, hn]
      · simp [hid, hn, h id hid hn]
    · simp [hid]

end EntityAudit.Store
