import EntityAudit.GraphQuery
import Mathlib.Data.List.Perm.Subperm
import Mathlib.Data.List.Nodup

/-!
Ways up the subclass statements, through classes that can be looked up. A way that passes no class twice
has no more steps than there are entities in the store.
-/

namespace EntityAudit

variable (find? : EntityId → Option Entity) (subclassOf : PropertyId)

def Superclass (c p : ItemId) : Prop :=
  ∃ e, find? (.item c) = some e ∧ p ∈ e.relatedItems [subclassOf]

/-- A way up from a class, with all classes that it leaves. -/
inductive Ascent : ItemId → List ItemId → ItemId → Prop
  | refl (c : ItemId) : Ascent c [] c
  | step {c p d : ItemId} {l : List ItemId} :
      Superclass find? subclassOf c p → Ascent p l d → Ascent c (c :: l) d

structure Explored (goal : ItemId → Prop) (visited waiting : List ItemId) : Prop where
  missed : ∀ c ∈ visited, ¬ goal c
  closed : ∀ c ∈ visited, ∀ p, Superclass find? subclassOf c p → p ∈ visited ∨ p ∈ waiting

variable {find? : EntityId → Option Entity} {subclassOf : PropertyId} {c d p : ItemId}
  {l visited waiting : List ItemId} {goal : ItemId → Prop}

namespace Explored

lemma nil : Explored find? subclassOf goal [] waiting := by
  constructor <;> simp

lemma skip {waiting' : List ItemId} (h : Explored find? subclassOf goal visited waiting)
    (hkeep : ∀ p ∈ waiting, p ∈ visited ∨ p ∈ waiting') :
    Explored find? subclassOf goal visited waiting' := by
  refine ⟨h.missed, fun c hc p hp => ?_⟩
  rcases h.closed c hc p hp with hp | hp
  · exact .inl hp
  · exact hkeep p hp

lemma visit {waiting' : List ItemId} (h : Explored find? subclassOf goal visited waiting) (hc : ¬ goal c)
    (hkeep : ∀ p ∈ waiting, p = c ∨ p ∈ waiting')
    (hadd : ∀ p, Superclass find? subclassOf c p → p ∈ waiting') :
    Explored find? subclassOf goal (c :: visited) waiting' := by
  refine ⟨List.forall_mem_cons.mpr ⟨hc, h.missed⟩, fun x hx p hp => ?_⟩
  rcases List.mem_cons.mp hx with rfl | hx
  · exact .inr (hadd p hp)
  · rcases h.closed x hx p hp with hp | hp
    · exact .inl (List.mem_cons_of_mem _ hp)
    · rcases hkeep p hp with rfl | hp
      · exact .inl List.mem_cons_self
      · exact .inr hp

lemma leaves (h : Explored find? subclassOf goal visited waiting)
    (hway : Ascent find? subclassOf c l d) (hc : c ∈ visited) (hd : goal d) :
    ∃ x ∈ waiting, ∃ k, k.length < l.length ∧ Ascent find? subclassOf x k d := by
  induction hway with
  | refl c => exact absurd hd (h.missed c hc)
  | @step c p d l hcp hway ih =>
    rcases h.closed c hc p hcp with hp | hp
    · obtain ⟨x, hx, k, hk, hxk⟩ := ih hp hd
      exact ⟨x, hx, k, Nat.lt_succ_of_lt hk, hxk⟩
    · exact ⟨p, hp, l, Nat.lt_succ_self _, hway⟩

end Explored

namespace Ascent

lemma snoc (h : Ascent find? subclassOf c l d) (hp : Superclass find? subclassOf d p) :
    Ascent find? subclassOf c (l ++ [d]) p := by
  induction h with
  | refl c => exact .step hp (.refl p)
  | step hcp _ ih => exact .step hcp (ih hp)

lemma eq_snoc (h : Ascent find? subclassOf c l p) (hl : l ≠ []) :
    ∃ k d, l = k ++ [d] ∧ Ascent find? subclassOf c k d ∧ Superclass find? subclassOf d p := by
  induction h with
  | refl c => exact absurd rfl hl
  | @step c p d l hcp hway ih =>
    cases hway with
    | refl => exact ⟨[], c, rfl, .refl c, hcp⟩
    | step hpq hway =>
      obtain ⟨k, x, hk, hx, hxd⟩ := ih (by simp)
      exact ⟨c :: k, x, by rw [hk, List.cons_append], .step hcp hx, hxd⟩

lemma find?_isSome (h : Ascent find? subclassOf c l d) {x : ItemId} (hx : x ∈ l) :
    (find? (.item x)).isSome = true := by
  induction h with
  | refl => cases hx
  | @step c p d l hcp _ ih =>
    rcases List.mem_cons.mp hx with rfl | hx
    · obtain ⟨e, he, -⟩ := hcp
      simp [he]
    · exact ih hx

lemma from_mem (h : Ascent find? subclassOf c l d) {x : ItemId} (hx : x ∈ l) :
    ∃ k, k.Sublist l ∧ Ascent find? subclassOf x k d := by
  induction h with
  | refl => cases hx
  | @step c p d l hcp hway ih =>
    rcases List.mem_cons.mp hx with rfl | hx
    · exact ⟨_, .refl _, .step hcp hway⟩
    · obtain ⟨k, hk, hxk⟩ := ih hx
      exact ⟨k, hk.cons c, hxk⟩

lemma nodup (h : Ascent find? subclassOf c l d) : ∃ k, k.Nodup ∧ Ascent find? subclassOf c k d := by
  induction h with
  | refl c => exact ⟨[], List.nodup_nil, .refl c⟩
  | @step c p d l hcp _ ih =>
    obtain ⟨k, hk, hpk⟩ := ih
    by_cases hc : c ∈ k
    · obtain ⟨j, hj, hcj⟩ := hpk.from_mem hc
      exact ⟨j, hk.sublist hj, hcj⟩
    · exact ⟨c :: k, List.nodup_cons.mpr ⟨hc, hk⟩, .step hcp hpk⟩

lemma length_le_of_nodup {s : Store} (h : Ascent s.find? subclassOf c l d) (hl : l.Nodup) :
    l.length ≤ s.ids.length := by
  have hnodup : (l.map EntityId.item).Nodup := hl.map fun a b hab => EntityId.item.inj hab
  have hsubset : l.map EntityId.item ⊆ s.ids := by
    intro id hid
    obtain ⟨x, hx, rfl⟩ := List.mem_map.mp hid
    obtain ⟨e, he⟩ := Option.isSome_iff_exists.mp (h.find?_isSome hx)
    exact Store.mem_ids_of_find? he
  simpa using (hnodup.subperm hsubset).length_le

lemma short {s : Store} (h : Ascent s.find? subclassOf c l d) :
    ∃ k, k.length ≤ s.ids.length ∧ Ascent s.find? subclassOf c k d := by
  obtain ⟨k, hk, hck⟩ := h.nodup
  exact ⟨k, hck.length_le_of_nodup hk, hck⟩

end Ascent

end EntityAudit
