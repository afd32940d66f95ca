import EntityAudit.Proofs.Store.Revision

namespace EntityAudit.Store

inductive Edit where
  | save (e : Entity)
  | delete (id : EntityId)
  | redirect (source target : EntityId)

def edit (s : Store) : Edit → Store
  | .save e => (s.save e).1
  | .delete id =>
    match s.delete id with
    | .ok t => t
    | .error _ => s
  | .redirect source target => s.addRedirect source target

def edits (s : Store) (l : List Edit) : Store := l.foldl edit s

def handedOut (s : Store) : List Edit → List Nat
  | [] => []
  | .save e :: l => (s.save e).2 :: handedOut (s.edit (.save e)) l
  | .delete id :: l => handedOut (s.edit (.delete id)) l
  | .redirect source target :: l => handedOut (s.edit (.redirect source target)) l

structure Evolves (s t : Store) : Prop where
  lastRevision_le : s.lastRevision ≤ t.lastRevision
  old_or_new : ∀ id x, t.entities.get? id = some x →
    s.entities.get? id = some x ∨ s.lastRevision < x.revision

variable {s t u : Store} {x : Edit} {l k : List Edit} {id : EntityId} {r : Nat}

lemma Precedes.evolves (h : s.Precedes t) : s.Evolves t := ⟨h.lastRevision_le, h.old_or_new⟩

lemma Evolves.trans (hst : s.Evolves t) (htu : t.Evolves u) : s.Evolves u where
  lastRevision_le := hst.lastRevision_le.trans htu.lastRevision_le
  old_or_new id x hx := by
    rcases htu.old_or_new id x hx with hx | hx
    · exact hst.old_or_new id x hx
    · exact .inr (hst.lastRevision_le.trans_lt hx)

lemma edit_delete (s : Store) (id : EntityId) :
    s.edit (.delete id) = s ∨ s.delete id = .ok (s.edit (.delete id)) := by
  cases hd : s.delete id with
  | ok t =>
    right
    simp only [edit, hd]
  | error =>
    left
    simp only [edit, hd]

lemma evolves_edit (s : Store) (x : Edit) : s.Evolves (s.edit x) := by
  cases x with
  | save e => exact (precedes_save s e).evolves
  | delete id =>
    rcases edit_delete s id with hsame | hd
    · rw [hsame]
      exact (Precedes.refl s).evolves
    · exact (precedes_delete hd).evolves
  | redirect source target => exact ⟨le_rfl, fun _ _ h => .inl h⟩

lemma Reachable.edit (h : s.Reachable) (x : Edit) : (s.edit x).Reachable := by
  cases x with
  | save e => exact h.save e
  | delete id =>
    rcases edit_delete s id with hsame | hd
    · rwa [hsame]
    · exact h.delete hd
  | redirect source target => exact h.addRedirect source target

lemma edits_append (s : Store) (l k : List Edit) : s.edits (l ++ k) = (s.edits l).edits k :=
  List.foldl_append

lemma evolves_edits (s : Store) (l : List Edit) : s.Evolves (s.edits l) := by
  induction l generalizing s with
  | nil => exact (Precedes.refl s).evolves
  | cons x l ih => exact (evolves_edit s x).trans (ih (s.edit x))

lemma Reachable.edits (h : s.Reachable) (l : List Edit) : (s.edits l).Reachable := by
  induction l generalizing s with
  | nil => exact h
  | cons x l ih => exact ih (h.edit x)

lemma get?_redirects_edit (s : Store) (x : Edit) (id : EntityId) :
    (s.edit x).redirects.get? id ≠ none ↔
      s.redirects.get? id ≠ none ∨ ∃ target, x = .redirect id target := by
  cases x with
  | save e => simp [edit, save]
  | delete a =>
    rcases edit_delete s a with hsame | hd
    · simp [hsame]
    · simp [(delete_fields hd).1]
  | redirect source target =>
    have hget : (s.edit (.redirect source target)).redirects.get? id =
        if source = id then some target else s.redirects.get? id := SortedMap.get?_insert _ _ _ _
    rw [hget]
    by_cases h : source = id
    · simp [h]
    · simp [h]

lemma get?_redirects_edits (s : Store) (l : List Edit) (id : EntityId) :
    (s.edits l).redirects.get? id ≠ none ↔
      s.redirects.get? id ≠ none ∨ ∃ target, .redirect id target ∈ l := by
  induction l generalizing s with
  | nil => simp [edits]
  | cons x l ih =>
    change ((s.edit x).edits l).redirects.get? id ≠ none ↔ _
    rw [ih, get?_redirects_edit, or_assoc, ← exists_or]
    simp only [List.mem_cons, eq_comm]

lemma Evolves.get?_eq (hs : s.WellRevised) (h : s.Evolves t) (hr : s.revision? id = some r)
    (hr' : t.revision? id = some r) : t.entities.get? id = s.entities.get? id := by
  obtain ⟨x, hx, hxr⟩ := revision?_eq_some.mp hr
  obtain ⟨y, hy, hyr⟩ := revision?_eq_some.mp hr'
  rcases h.old_or_new id y hy with hold | hlt
  · rw [hy, hold]
  · have hle := hs id x hx
    omega

lemma find?_eq_of_get? {x : Stored} (h : s.entities.get? id = some x) :
    s.find? id = if s.redirects.get? id = none then some x.entity else none := by
  unfold find? load
  cases s.redirects.get? id with
  | none => simp [h]
  | some target => simp

lemma lt_of_mem_handedOut (h : r ∈ s.handedOut l) : s.lastRevision < r := by
  induction l generalizing s with
  | nil => cases h
  | cons x l ih =>
    cases x with
    | save e =>
      rcases List.mem_cons.mp h with rfl | h
      · exact Nat.lt_succ_self _
      · exact (evolves_edit s (.save e)).lastRevision_le.trans_lt (ih h)
    | delete id => exact (evolves_edit s (.delete id)).lastRevision_le.trans_lt (ih h)
    | redirect source target =>
      exact (evolves_edit s (.redirect source target)).lastRevision_le.trans_lt (ih h)

lemma pairwise_handedOut (s : Store) (l : List Edit) : (s.handedOut l).Pairwise (· < ·) := by
  induction l generalizing s with
  | nil => exact .nil
  | cons x l ih =>
    cases x with
    | save e => exact List.pairwise_cons.mpr ⟨fun r hr => lt_of_mem_handedOut hr, ih _⟩
    | delete id => exact ih _
    | redirect source target => exact ih _

/-- Revisions ascend in every run. With one revision at two moments an identifier has one stored
version, and it is seen alike exactly if it has not become a redirect in between. -/
theorem seen_alike_iff_not_redirected (l k : List Edit) :
    let s := empty.edits l
    let t := empty.edits (l ++ k)
    (empty.handedOut (l ++ k)).Pairwise (· < ·) ∧
      ∀ id r, s.revision? id = some r → t.revision? id = some r →
        t.entities.get? id = s.entities.get? id ∧
          (t.find? id = s.find? id ↔
            ((∃ target, .redirect id target ∈ k) → ∃ target, .redirect id target ∈ l)) := by
  intro s t
  refine ⟨pairwise_handedOut _ _, fun id r hs ht => ?_⟩
  have hrun : t = s.edits k := edits_append _ _ _
  have hwell : s.WellRevised := (Reachable.empty.edits l).wellRevised
  have hstored : t.entities.get? id = s.entities.get? id :=
    (hrun ▸ evolves_edits s k).get?_eq hwell hs ht
  obtain ⟨x, hx, -⟩ := revision?_eq_some.mp hs
  have hbefore : s.redirects.get? id ≠ none ↔ ∃ target, .redirect id target ∈ l := by
    rw [get?_redirects_edits]
    simp [empty, SortedMap.get?_empty]
  have hafter : t.redirects.get? id ≠ none ↔
      s.redirects.get? id ≠ none ∨ ∃ target, .redirect id target ∈ k := by
    rw [hrun, get?_redirects_edits]
  refine ⟨hstored, ?_⟩
  -- The version is there at both moments, so only the redirects decide whether it is seen.
  rw [find?_eq_of_get? hx, find?_eq_of_get? (hstored.trans hx), ← hbefore]
  by_cases hsource : s.redirects.get? id = none
  · by_cases htarget : t.redirects.get? id = none
    · have hnone : ¬ ∃ target, Edit.redirect id target ∈ k := fun h => hafter.mpr (.inr h) htarget
      simp [hsource, htarget, hnone]
    · have hsome : ∃ target, Edit.redirect id target ∈ k :=
        (hafter.mp htarget).resolve_left (not_not.mpr hsource)
      simp [hsource, htarget, hsome]
  · have htarget : t.redirects.get? id ≠ none := hafter.mpr (.inl hsource)
    simp [hsource, htarget]

theorem second_version_seen :
    let l := [Edit.save (.empty (.item ⟨1⟩)), .save (.empty (.item ⟨1⟩))]
    let k := [Edit.save (.empty (.item ⟨2⟩)), .delete (.item ⟨2⟩), .redirect (.item ⟨2⟩) (.item ⟨1⟩)]
    (empty.edits l).revision? (.item ⟨1⟩) = some 2 ∧
      (empty.edits (l ++ k)).revision? (.item ⟨1⟩) = some 2 ∧
        (empty.edits l).find? (.item ⟨1⟩) ≠ none ∧
          (empty.edits (l ++ k)).find? (.item ⟨1⟩) = (empty.edits l).find? (.item ⟨1⟩) := by
  intro l k
  have hs : (empty.edits l).revision? (.item ⟨1⟩) = some 2 := by decide
  have ht : (empty.edits (l ++ k)).revision? (.item ⟨1⟩) = some 2 := by decide
  have hseen : ((empty.edits l).find? (.item ⟨1⟩)).isSome = true := by decide
  refine ⟨hs, ht, Option.isSome_iff_ne_none.mp hseen, ?_⟩
  refine ((seen_alike_iff_not_redirected l k).2 _ 2 hs ht).2.mpr ?_
  rintro ⟨target, htarget⟩
  simp [k] at htarget

theorem revision_of_redirected :
    let s := empty.edits [.save (.empty (.item ⟨1⟩))]
    let t := empty.edits [.save (.empty (.item ⟨1⟩)), .redirect (.item ⟨1⟩) (.item ⟨2⟩)]
    s.revision? (.item ⟨1⟩) = some 1 ∧ t.revision? (.item ⟨1⟩) = some 1 ∧
      s.find? (.item ⟨1⟩) = some (.empty (.item ⟨1⟩)) ∧ t.find? (.item ⟨1⟩) = none :=
  ⟨rfl, rfl, rfl, rfl⟩

end EntityAudit.Store
