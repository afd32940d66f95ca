import EntityAudit.Regex.Basic
import Mathlib.Data.Finset.Card
import Mathlib.Logic.Function.Iterate
import Mathlib.Order.Monotone.Basic

/-!
What it means that an expression matches a part of a text, and that the search by sets of positions decides it. An
unlimited repetition needs no more rounds than there are positions.
-/

namespace EntityAudit.Regex

section Steps

def Steps (R : Nat → Nat → Prop) : Nat → Nat → Nat → Prop
  | 0, i, j => i = j
  | n + 1, i, j => ∃ k, Steps R n i k ∧ R k j

variable {R : Nat → Nat → Prop} {i j m n N : Nat}

lemma steps_add : Steps R (m + n) i j ↔ ∃ k, Steps R m i k ∧ Steps R n k j := by
  induction n generalizing j with
  | zero => simp [Steps]
  | succ n ih =>
    change (∃ k, Steps R (m + n) i k ∧ R k j) ↔ ∃ k, Steps R m i k ∧ ∃ l, Steps R n k l ∧ R l j
    simp only [ih]
    constructor
    · rintro ⟨l, ⟨k, hk, hl⟩, hj⟩
      exact ⟨k, hk, l, hl, hj⟩
    · rintro ⟨k, hk, l, hl, hj⟩
      exact ⟨l, ⟨k, hk, hl⟩, hj⟩

lemma steps_reflexive : Steps (fun i j => i = j ∨ R i j) n i j ↔ ∃ m ≤ n, Steps R m i j := by
  induction n generalizing j with
  | zero =>
    constructor
    · exact fun h => ⟨0, Nat.le_refl 0, h⟩
    · rintro ⟨m, hm, h⟩
      rwa [Nat.le_zero.mp hm] at h
  | succ n ih =>
    constructor
    · rintro ⟨k, hk, hj⟩
      obtain ⟨m, hm, hk⟩ := ih.mp hk
      rcases hj with rfl | hj
      · exact ⟨m, Nat.le_succ_of_le hm, hk⟩
      · exact ⟨m + 1, Nat.succ_le_succ hm, k, hk, hj⟩
    · rintro ⟨m, hm, h⟩
      rcases Nat.le_succ_iff.mp hm with hm | rfl
      · exact ⟨j, ih.mpr ⟨m, hm, h⟩, .inl rfl⟩
      · obtain ⟨k, hk, hj⟩ := h
        exact ⟨k, ih.mpr ⟨n, Nat.le_refl n, hk⟩, .inr hj⟩

lemma steps_lt (hR : ∀ i j, i < N → R i j → j < N) (hi : i < N) (h : Steps R n i j) : j < N := by
  induction n generalizing j with
  | zero => exact h ▸ hi
  | succ n ih =>
    obtain ⟨k, hk, hj⟩ := h
    exact hR k j (ih hk) hj

open Classical in
lemma steps_bounded (hR : ∀ i j, i < N → R i j → j < N) (hi : i < N) (h : Steps R n i j) :
    ∃ m ≤ N, Steps R m i j := by
  let reached (k : Nat) : Finset Nat := (Finset.range N).filter fun j => ∃ m ≤ k, Steps R m i j
  have hmem (k j : Nat) : j ∈ reached k ↔ ∃ m ≤ k, Steps R m i j := by
    rw [Finset.mem_filter, Finset.mem_range, and_iff_right_iff_imp]
    rintro ⟨m, -, hm⟩
    exact steps_lt hR hi hm
  have hsucc (k j : Nat) : j ∈ reached (k + 1) ↔ j ∈ reached k ∨ ∃ l ∈ reached k, R l j := by
    simp only [hmem, ← steps_reflexive]
    constructor
    · rintro ⟨l, hl, rfl | hj⟩
      · exact .inl hl
      · exact .inr ⟨l, hl, hj⟩
    · rintro (hj | ⟨l, hl, hj⟩)
      · exact ⟨j, hj, .inl rfl⟩
      · exact ⟨l, hl, .inr hj⟩
  have hmono : Monotone reached := monotone_nat_of_le_succ fun k j hj => (hsucc k j).mpr (.inl hj)
  have hcard (k : Nat) : (reached k).card ≤ N := by
    simpa using Finset.card_filter_le (Finset.range N) fun j => ∃ m ≤ k, Steps R m i j
  have hstable (k : Nat) (heq : (reached k).card = (reached (k + 1)).card) :
      (reached (k + 1)).card = (reached (k + 2)).card := by
    have hsame : reached k = reached (k + 1) :=
      Finset.eq_of_subset_of_card_le (hmono (Nat.le_succ k)) heq.ge
    congr 1
    ext j
    rw [hsucc (k + 1), ← hsame, ← hsucc k, ← hsame]
  rcases Nat.le_total n N with hle | hle
  · exact ⟨n, hle, h⟩
  · have hsame : reached N = reached n := by
      refine Finset.eq_of_subset_of_card_le (hmono hle) (Nat.le_of_eq ?_)
      exact Nat.stabilises_of_monotone (fun k l hkl => Finset.card_le_card (hmono hkl)) hcard hstable hle
    exact (hmem N j).mp (hsame ▸ (hmem n j).mpr ⟨n, Nat.le_refl n, h⟩)

end Steps

def spotAt (text : List Char) (i : Nat) : Spot := ⟨if i = 0 then none else text[i - 1]?, text[i]?⟩

def Matches (text : List Char) : Regex → Nat → Nat → Prop
  | empty => fun i j => i = j
  | set p => fun i j => i + 1 = j ∧ text[i]?.any p = true
  | look l => fun i j => i = j ∧ l (spotAt text i) = true
  | seq a b => fun i j => ∃ k, Matches text a i k ∧ Matches text b k j
  | alt a b => fun i j => Matches text a i j ∨ Matches text b i j
  | times r least most => fun i j =>
    ∃ n, least ≤ n ∧ (∀ k, most = some k → n - least ≤ k - least) ∧ Steps (Matches text r) n i j

def Spans (r : Regex) (text : String) : Prop := r.Matches text.toList 0 text.toList.length

lemma getElem?_spots (before : Option Char) (text : List Char) (i : Nat) : (spots before text)[i]? =
    if i ≤ text.length then some ⟨if i = 0 then before else text[i - 1]?, text[i]?⟩ else none := by
  induction text generalizing before i with
  | nil => cases i <;> simp [spots]
  | cons c text ih =>
    cases i with
    | zero => simp [spots]
    | succ i =>
      simp only [spots, List.getElem?_cons_succ, ih]
      cases i with
      | zero => simp
      | succ i => simp

lemma getElem?_spots_none (text : List Char) (i : Nat) :
    (spots none text)[i]? = if i ≤ text.length then some (spotAt text i) else none :=
  getElem?_spots none text i

lemma length_spots (before : Option Char) (text : List Char) : (spots before text).length = text.length + 1 := by
  induction text generalizing before with
  | nil => rfl
  | cons c text ih => simp [spots, ih]

structure Computes (text : List Char) (step : Positions → Positions) (R : Nat → Nat → Prop) : Prop where
  length : ∀ s, s.length = text.length + 1 → (step s).length = text.length + 1
  reached : ∀ s, s.length = text.length + 1 → ∀ j,
    (step s)[j]? = some true ↔ ∃ i, s[i]? = some true ∧ R i j

namespace Computes

variable {text : List Char} {f g : Positions → Positions} {R S : Nat → Nat → Prop} {i j n : Nat}

lemma congr (h : Computes text f R) (hiff : ∀ i j, i < text.length + 1 → (R i j ↔ S i j)) : Computes text f S := by
  refine ⟨h.length, fun s hs j => (h.reached s hs j).trans ?_⟩
  refine exists_congr fun i => and_congr_right fun hi => hiff i j ?_
  rw [← hs]
  exact (List.getElem?_eq_some_iff.mp hi).1

lemma id : Computes text id Eq := ⟨fun _ hs => hs, fun s _ j => by simp⟩

lemma comp (hf : Computes text f R) (hg : Computes text g S) :
    Computes text (fun s => g (f s)) fun i j => ∃ k, R i k ∧ S k j := by
  refine ⟨fun s hs => hg.length _ (hf.length s hs), fun s hs j => ?_⟩
  rw [hg.reached _ (hf.length s hs)]
  simp only [hf.reached s hs]
  constructor
  · rintro ⟨k, ⟨i, hi, hk⟩, hj⟩
    exact ⟨i, hi, k, hk, hj⟩
  · rintro ⟨i, hi, k, hk, hj⟩
    exact ⟨k, ⟨i, hi, hk⟩, hj⟩

lemma union (hf : Computes text f R) (hg : Computes text g S) :
    Computes text (fun s => Regex.union (f s) (g s)) fun i j => R i j ∨ S i j := by
  refine ⟨fun s hs => ?_, fun s hs j => ?_⟩
  · simp [Regex.union, hf.length s hs, hg.length s hs]
  · have hor : (Regex.union (f s) (g s))[j]? = some true ↔ (f s)[j]? = some true ∨ (g s)[j]? = some true := by
      have hlength : (f s).length = (g s).length := by rw [hf.length s hs, hg.length s hs]
      rw [Regex.union, List.getElem?_zipWith]
      by_cases hj : j < (f s).length
      · simp [hj, hlength ▸ hj]
      · simp [hj, hlength ▸ hj]
    rw [hor, hf.reached s hs, hg.reached s hs]
    simp only [and_or_left, exists_or]

lemma advance (p : Char → Bool) : Computes text (Regex.advance p (spots none text))
    fun i j => i + 1 = j ∧ text[i]?.any p = true := by
  refine ⟨fun s hs => by simp [Regex.advance, hs, length_spots], fun s hs j => ?_⟩
  cases j with
  | zero => simp [Regex.advance]
  | succ j =>
    have hleft : (Regex.advance p (spots none text) s)[j + 1]? = some true ↔
        s[j]? = some true ∧ text[j]?.any p = true := by
      simp only [Regex.advance, List.getElem?_cons_succ, List.getElem?_dropLast, List.getElem?_zipWith,
        getElem?_spots_none, List.length_zipWith, length_spots, hs, Nat.min_self, Nat.add_sub_cancel]
      by_cases hj : j < text.length
      · rw [if_pos hj, if_pos hj.le]
        cases s[j]? with
        | none => simp
        | some b => simp [spotAt]
      · simp [hj]
    rw [hleft]
    simp

lemma look (l : Spot → Bool) : Computes text
    (fun s => List.zipWith (fun spot b => b && l spot) (spots none text) s)
      fun i j => i = j ∧ l (spotAt text i) = true := by
  refine ⟨fun s hs => by simp [hs, length_spots], fun s hs j => ?_⟩
  simp only [List.getElem?_zipWith, getElem?_spots_none]
  by_cases hj : j ≤ text.length
  · rw [if_pos hj]
    cases hb : s[j]? with
    | none => simp [hb]
    | some b => simp [hb]
  · have hnone : s[j]? = none := List.getElem?_eq_none (by omega)
    simp [hj, hnone]

lemma steps (h : Computes text f R) (n : Nat) : Computes text (fun s => f^[n] s) (Steps R n) := by
  induction n with
  | zero => exact .id
  | succ n ih =>
    simp only [Function.iterate_succ_apply']
    exact ih.comp h

end Computes

lemma iterate_eq (step : Positions → Positions) (n : Nat) (s : Positions) : iterate step n s = step^[n] s := by
  induction n generalizing s with
  | zero => rfl
  | succ n ih =>
    rw [Function.iterate_succ_apply, iterate]
    split
    · rename_i hsame
      rw [hsame, Function.iterate_fixed hsame]
    · exact ih _

lemma Computes.lt {text : List Char} {f : Positions → Positions} {R : Nat → Nat → Prop} (h : Computes text f R)
    {i j : Nat} (hi : i < text.length + 1) (hR : R i j) : j < text.length + 1 := by
  let s : Positions := (List.range (text.length + 1)).map (· == i)
  have hs : s.length = text.length + 1 := by simp [s]
  have hj : (f s)[j]? = some true := (h.reached s hs j).mpr ⟨i, by simp [s, hi], hR⟩
  rw [← h.length s hs]
  exact (List.getElem?_eq_some_iff.mp hj).1

theorem reach_computes (text : List Char) (r : Regex) :
    Computes text (reach (spots none text) r) (r.Matches text) := by
  induction r with
  | empty => exact .id
  | set p => exact .advance p
  | look l => exact .look l
  | seq a b iha ihb => exact iha.comp ihb
  | alt a b iha ihb => exact iha.union ihb
  | times r least most ih =>
    have hreflexive : Computes text (fun s => union s (reach (spots none text) r s)) fun i j =>
      i = j ∨ r.Matches text i j := Computes.id.union ih
    have hmore (more : Nat) : Computes text (fun s => iterate (fun t => union t (reach (spots none text) r t)) more
        (iterate (reach (spots none text) r) least s)) fun i j =>
          ∃ k, Steps (r.Matches text) least i k ∧ ∃ m ≤ more, Steps (r.Matches text) m k j := by
      simp only [iterate_eq, ← steps_reflexive]
      exact (ih.steps least).comp (hreflexive.steps more)
    cases most with
    | some most =>
      refine (hmore (most - least)).congr fun i j _ => ?_
      constructor
      · rintro ⟨k, hk, m, hm, hj⟩
        refine ⟨least + m, Nat.le_add_right _ _, ?_, steps_add.mpr ⟨k, hk, hj⟩⟩
        rintro n hn
        cases hn
        omega
      · rintro ⟨n, hn, hmost, h⟩
        obtain ⟨m, rfl⟩ := Nat.exists_eq_add_of_le hn
        obtain ⟨k, hk, hj⟩ := steps_add.mp h
        exact ⟨k, hk, m, by simpa using hmost most rfl, hj⟩
    | none =>
      refine (hmore (spots none text).length).congr fun i j hi => ?_
      constructor
      · rintro ⟨k, hk, m, -, hj⟩
        exact ⟨least + m, Nat.le_add_right _ _, nofun, steps_add.mpr ⟨k, hk, hj⟩⟩
      · rintro ⟨n, hn, -, h⟩
        obtain ⟨m, rfl⟩ := Nat.exists_eq_add_of_le hn
        obtain ⟨k, hk, hj⟩ := steps_add.mp h
        have hlt : ∀ i j, i < text.length + 1 → r.Matches text i j → j < text.length + 1 := fun _ _ => ih.lt
        obtain ⟨m', hm', hj'⟩ := steps_bounded hlt (steps_lt hlt hi hk) hj
        exact ⟨k, hk, m', by rwa [length_spots], hj'⟩

lemma isMatch_iff {r : Regex} {text : String} :
    r.isMatch text = true ↔ ∃ i j, i ≤ text.toList.length ∧ r.Matches text.toList i j := by
  let every : Positions := (spots none text.toList).map fun _ => true
  have hevery : every.length = text.toList.length + 1 := by simp [every, length_spots]
  have hstart (i : Nat) : every[i]? = some true ↔ i ≤ text.toList.length := by
    have hlt : every[i]? = some true ↔ i < text.toList.length + 1 := by
      simp [every, length_spots, List.getElem?_replicate]
    exact hlt.trans Nat.lt_succ_iff
  have hany : r.isMatch text = true ↔ ∃ j : Nat, (reach (spots none text.toList) r every)[j]? = some true := by
    simp [isMatch, List.any_eq_true, List.mem_iff_getElem?, every]
  rw [hany]
  simp only [(reach_computes text.toList r).reached every hevery, hstart]
  exact exists_comm

lemma isMatch_anchored_iff {r : Regex} {text : String} :
    (seq (seq (look fun s => s.before.isNone) r) (look fun s => s.after.isNone)).isMatch text = true ↔
      r.Spans text := by
  rw [isMatch_iff]
  constructor
  · rintro ⟨i, _, hi, j, ⟨_, ⟨rfl, hbefore⟩, hr⟩, rfl, hafter⟩
    have hj : j < text.toList.length + 1 := (reach_computes text.toList r).lt (Nat.lt_succ_of_le hi) hr
    have hend : j = text.toList.length := by
      simp only [spotAt, Option.isNone_iff_eq_none, List.getElem?_eq_none_iff] at hafter
      omega
    have hzero : i = 0 := by
      by_contra hne
      simp only [spotAt, hne, if_false, Option.isNone_iff_eq_none, List.getElem?_eq_none_iff] at hbefore
      omega
    rwa [hzero, hend] at hr
  · intro hspans
    refine ⟨0, _, Nat.zero_le _, _, ⟨0, ⟨rfl, rfl⟩, hspans⟩, rfl, ?_⟩
    simp [spotAt]

end EntityAudit.Regex
