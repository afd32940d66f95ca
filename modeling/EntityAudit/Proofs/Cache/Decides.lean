import EntityAudit.Result
import Mathlib.Algebra.BigOperators.Group.List.Basic
import Mathlib.Algebra.Order.Ring.Int

/-!
When two lists of results are the same. A condition decides it if they are the same under the
condition, and one of them scores less without it; such conditions are joined when lists are.
-/

namespace EntityAudit

structure Decides (view : Result → Result) (score : Result → Int) (g : Prop) (l m : List Result) :
    Prop where
  perm : g → (l.map view).Perm (m.map view)
  le : (l.map score).sum ≤ (m.map score).sum
  lt : ¬ g → (l.map score).sum < (m.map score).sum

namespace Decides

variable {view : Result → Result} {score : Result → Int} {g h : Prop} {l m l' m' : List Result}

lemma same (hg : g) (l : List Result) : Decides view score g l l where
  perm _ := .refl _
  le := le_rfl
  lt hn := absurd hg hn

lemma sum_eq_of_perm (hscore : ∀ r, score (view r) = score r) (h : (l.map view).Perm (m.map view)) :
    (l.map score).sum = (m.map score).sum := by
  have hmap : ∀ l : List Result, (l.map view).map score = l.map score := by
    intro l
    rw [List.map_map]
    exact List.map_congr_left fun r _ => hscore r
  rw [← hmap l, ← hmap m]
  exact (h.map score).sum_eq

lemma iff_perm (hd : Decides view score g l m) (hscore : ∀ r, score (view r) = score r) :
    (l.map view).Perm (m.map view) ↔ g := by
  refine ⟨fun hperm => ?_, hd.perm⟩
  by_contra hn
  exact (hd.lt hn).ne (sum_eq_of_perm hscore hperm)

lemma imp (hd : Decides view score g l m) (hiff : g ↔ h) : Decides view score h l m where
  perm hh := hd.perm (hiff.mpr hh)
  le := hd.le
  lt hn := hd.lt fun hg => hn (hiff.mp hg)

lemma append (hd : Decides view score g l m) (hd' : Decides view score h l' m') :
    Decides view score (g ∧ h) (l ++ l') (m ++ m') where
  perm hgh := by
    rw [List.map_append, List.map_append]
    exact (hd.perm hgh.1).append (hd'.perm hgh.2)
  le := by
    simp only [List.map_append, List.sum_append]
    exact add_le_add hd.le hd'.le
  lt hn := by
    simp only [List.map_append, List.sum_append]
    by_cases hg : g
    · exact add_lt_add_of_le_of_lt hd.le (hd'.lt fun hh => hn ⟨hg, hh⟩)
    · exact add_lt_add_of_lt_of_le (hd.lt hg) hd'.le

lemma flatMap {α : Type} {g : α → Prop} {f k : α → List Result} {xs : List α}
    (hd : ∀ x ∈ xs, Decides view score (g x) (f x) (k x)) :
    Decides view score (∀ x ∈ xs, g x) (xs.flatMap f) (xs.flatMap k) := by
  induction xs with
  | nil => exact same (by simp) []
  | cons x xs ih =>
    have hrest := ih fun y hy => hd y (List.mem_cons_of_mem _ hy)
    exact ((hd x List.mem_cons_self).append hrest).imp List.forall_mem_cons.symm

lemma nil_flatMap {α : Type} {g : α → Prop} {k : α → List Result} {xs : List α}
    (hd : ∀ x ∈ xs, Decides view score (g x) [] (k x)) :
    Decides view score (∀ x ∈ xs, g x) [] (xs.flatMap k) := by
  have hall := flatMap (f := fun _ => []) hd
  rwa [List.flatMap_eq_nil_iff.mpr fun _ _ => rfl] at hall

lemma perm_left (hd : Decides view score g l m) (hview : (l'.map view).Perm (l.map view))
    (hscore : ∀ r, score (view r) = score r) : Decides view score g l' m := by
  have hsum := sum_eq_of_perm hscore hview
  exact ⟨fun hg => hview.trans (hd.perm hg), hsum ▸ hd.le, fun hn => hsum ▸ hd.lt hn⟩

lemma perm_right (hd : Decides view score g l m) (hperm : m.Perm m') : Decides view score g l m' := by
  have hsum : (m.map score).sum = (m'.map score).sum := (hperm.map score).sum_eq
  exact ⟨fun hg => (hd.perm hg).trans (hperm.map view), hsum ▸ hd.le, fun hn => hsum ▸ hd.lt hn⟩

lemma all {ι : Type} {P : ι → Prop} {g : ι → Prop} {i : ι} (hi : P i)
    (hd : ∀ i, P i → Decides view score (g i) l m) : Decides view score (∀ i, P i → g i) l m where
  perm hg := (hd i hi).perm (hg i hi)
  le := (hd i hi).le
  lt hn := by
    push Not at hn
    obtain ⟨j, hj, hnot⟩ := hn
    exact (hd j hj).lt hnot

end Decides

end EntityAudit
