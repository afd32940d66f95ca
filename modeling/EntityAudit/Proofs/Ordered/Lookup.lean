import EntityAudit.Ordered.Map
import Mathlib.Data.List.Perm.Basic

namespace EntityAudit.SortedMap

open Std

variable {α β : Type} [Ord α] [LawfulEqOrd α]

omit [LawfulEqOrd α] in
lemma get?_empty (a : α) : (empty : SortedMap α β).get? a = none := rfl

omit [LawfulEqOrd α] in
lemma contains_iff_get? {m : SortedMap α β} {a : α} :
    m.contains a = true ↔ ∃ b, m.get? a = some b :=
  Option.isSome_iff_exists

lemma lookup_cons [DecidableEq α] (a : α) (e : α × β) (l : List (α × β)) :
    lookup a (e :: l) = if a = e.1 then some e.2 else lookup a l := by
  simp [lookup]

lemma contains_iff_mem_keys {m : SortedMap α β} {a : α} :
    m.contains a = true ↔ a ∈ m.keys := by
  classical
  change (lookup a m.entries).isSome = true ↔ a ∈ m.entries.map (·.1)
  induction m.entries with
  | nil => simp [lookup]
  | cons e l ih =>
    rw [lookup_cons]
    by_cases h : a = e.1
    · simp [h]
    · simpa [h] using ih

omit [LawfulEqOrd α] in
lemma get?_mapValues {γ : Type} (f : β → γ) (m : SortedMap α β) (a : α) :
    (m.mapValues f).get? a = (m.get? a).map f := by
  change lookup a (m.entries.map fun e => (e.1, f e.2)) = (lookup a m.entries).map f
  induction m.entries with
  | nil => rfl
  | cons e l ih =>
    rw [List.map_cons, lookup, lookup, ih]
    split
    · rfl
    · rfl

omit [LawfulEqOrd α] in
lemma beq_eq_true_iff [BEq α] [BEq β] [LawfulBEq α] [LawfulBEq β] {m n : SortedMap α β} :
    (m == n) = true ↔ m = n := by
  obtain ⟨l, hl⟩ := m
  obtain ⟨k, hk⟩ := n
  change (l == k) = true ↔ _
  rw [beq_iff_eq, SortedMap.mk.injEq]

lemma get?_erase [DecidableEq α] (m : SortedMap α β) (k a : α) :
    (m.erase k).get? a = if k = a then none else m.get? a := by
  change lookup a (m.entries.filter fun e => compare k e.1 ≠ .eq) =
    if k = a then none else lookup a m.entries
  induction m.entries with
  | nil => simp [lookup]
  | cons e l ih =>
    by_cases hk : k = e.1
    · rw [List.filter_cons_of_neg (by simp [hk]), ih, lookup_cons]
      by_cases ha : k = a
      · simp [ha]
      · simp [ha, show a ≠ e.1 from fun h => ha (hk.trans h.symm)]
    · rw [List.filter_cons_of_pos (by simp [hk]), lookup_cons, ih, lookup_cons]
      by_cases ha : a = e.1
      · simp [ha, hk]
      · simp [ha]

lemma get?_eq_some_iff {m : SortedMap α β} {a : α} {b : β} :
    m.get? a = some b ↔ (a, b) ∈ m.entries := by
  classical
  obtain ⟨l, hl⟩ := m
  change lookup a l = some b ↔ (a, b) ∈ l
  induction l with
  | nil => simp [lookup]
  | cons e l ih =>
    obtain ⟨he, hl⟩ := List.pairwise_cons.mp hl
    rw [lookup_cons, List.mem_cons]
    by_cases h : a = e.1
    · have hnot : (a, b) ∉ l := by
        intro hm
        have hlt := he _ hm
        simp [h] at hlt
      simp [h, Prod.ext_iff, eq_comm, h ▸ hnot]
    · simp [h, Prod.ext_iff, ih hl]

variable [TransOrd α]

lemma ext_get? {m n : SortedMap α β} (h : ∀ a, m.get? a = n.get? a) : m = n := by
  have hmem : ∀ e : α × β, e ∈ m.entries ↔ e ∈ n.entries := by
    rintro ⟨a, b⟩
    rw [← get?_eq_some_iff, ← get?_eq_some_iff, h]
  have hnodup (m : SortedMap α β) : m.entries.Nodup := by
    refine m.sorted.imp ?_
    rintro a b hab rfl
    simp at hab
  have hperm := (List.perm_ext_iff_of_nodup (hnodup m) (hnodup n)).mpr hmem
  have hanti : ∀ a b : α × β, a ∈ m.entries → b ∈ n.entries →
      compare a.1 b.1 = .lt → compare b.1 a.1 = .lt → a = b := by
    intro a b _ _ hab hba
    have hgt := OrientedCmp.gt_of_lt hab
    rw [hba] at hgt
    cases hgt
  have hentries := hperm.eq_of_pairwise hanti m.sorted n.sorted
  cases m
  cases n
  cases hentries
  rfl

lemma ext_contains {m n : SortedSet α} (h : ∀ a, m.contains a = true ↔ n.contains a = true) : m = n := by
  apply ext_get?
  intro a
  have hsome : (m.get? a).isSome = (n.get? a).isSome := Bool.eq_iff_iff.mpr (h a)
  revert hsome
  cases m.get? a with
  | none =>
    cases n.get? a with
    | none => exact fun _ => rfl
    | some => nofun
  | some =>
    cases n.get? a with
    | none => nofun
    | some => exact fun _ => rfl

lemma get?_insert [DecidableEq α] (m : SortedMap α β) (k a : α) (v : β) :
    (m.insert k v).get? a = if k = a then some v else m.get? a := by
  by_cases h : k = a
  · subst h
    simp
  · rw [get?_insert_ne m v h, if_neg h]

lemma get?_foldl_insert [DecidableEq α] {f : α → Option β} {l : List (α × β)}
    (hl : ∀ e ∈ l, f e.1 = some e.2) (m : SortedMap α β) (a : α) :
    (l.foldl (fun m e => m.insert e.1 e.2) m).get? a =
      if a ∈ l.map (·.1) then f a else m.get? a := by
  induction l generalizing m with
  | nil => simp
  | cons e l ih =>
    rw [List.foldl_cons, ih (fun d hd => hl d (List.mem_cons_of_mem _ hd)), get?_insert]
    by_cases ha : a ∈ l.map (·.1)
    · simp [ha]
    · by_cases he : e.1 = a
      · simp [← he, hl e List.mem_cons_self]
      · simp [ha, he, Ne.symm he]

lemma mem_of_get?_foldl_insert {l : List (α × β)} {m : SortedMap α β} {a : α} {b : β}
    (h : (l.foldl (fun m e => m.insert e.1 e.2) m).get? a = some b) :
    (a, b) ∈ l ∨ m.get? a = some b := by
  classical
  induction l generalizing m with
  | nil => exact .inr h
  | cons e l ih =>
    rcases ih h with hl | hm
    · exact .inl (List.mem_cons_of_mem _ hl)
    · rw [get?_insert] at hm
      split at hm
      · rename_i he
        exact .inl (by simp [← he, ← Option.some.inj hm])
      · exact .inr hm

lemma mem_of_get?_ofList {l : List (α × β)} {a : α} {b : β}
    (h : (ofList l).get? a = some b) : (a, b) ∈ l := by
  rcases mem_of_get?_foldl_insert h with hl | hm
  · exact hl
  · simp [get?_empty] at hm

lemma contains_foldl_insert (l : List (α × β)) (m : SortedMap α β) (a : α) :
    (l.foldl (fun m e => m.insert e.1 e.2) m).contains a = true ↔
      a ∈ l.map (·.1) ∨ m.contains a = true := by
  classical
  induction l generalizing m with
  | nil => simp
  | cons e l ih =>
    rw [List.foldl_cons, ih]
    simp only [contains, get?_insert, List.map_cons, List.mem_cons]
    by_cases he : e.1 = a
    · simp [he]
    · simp [he, Ne.symm he]

lemma contains_union (m n : SortedMap α β) (a : α) :
    (m.union n).contains a = true ↔ m.contains a = true ∨ n.contains a = true := by
  rw [union, contains_foldl_insert, or_comm, contains_iff_mem_keys (m := n), keys]

lemma contains_setOf (l : List α) (a : α) : (setOf l).contains a = true ↔ a ∈ l := by
  rw [setOf, ofList, contains_foldl_insert]
  simp [contains, get?_empty]

omit [LawfulEqOrd α] [TransOrd α] in
lemma eq_empty_of_isEmpty {m : SortedMap α β} (h : m.isEmpty = true) : empty = m := by
  obtain ⟨entries, hsorted⟩ := m
  obtain rfl : entries = [] := List.isEmpty_iff.mp h
  rfl

lemma ofList_entries (m : SortedMap α β) : ofList m.entries = m := by
  classical
  apply ext_get?
  intro a
  have hentries : ∀ e ∈ m.entries, m.get? e.1 = some e.2 := fun e he => get?_eq_some_iff.mpr he
  rw [ofList, get?_foldl_insert hentries, get?_empty]
  split
  · rfl
  · rename_i hmem
    rw [eq_comm, ← Option.not_isSome_iff_eq_none]
    intro hsome
    exact hmem (contains_iff_mem_keys.mp hsome)

lemma setOf_keys (s : SortedSet α) : setOf s.keys = s := by
  have hentries : s.keys.map (fun a => (a, ())) = s.entries := by
    rw [keys, List.map_map]
    exact List.map_id _
  rw [setOf, hentries, ofList_entries]

end EntityAudit.SortedMap
