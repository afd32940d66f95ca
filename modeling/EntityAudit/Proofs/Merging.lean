import EntityAudit.Proofs.Metadata
import Mathlib.Data.List.MinMax
import Mathlib.Data.Prod.Lex
import Mathlib.Order.Bounds.Basic
import Mathlib.Order.Lattice.Nat

/-!
Metadata form a semilattice in which merging is the least upper bound and blank metadata are the bottom.
So what is merged depends on the parts alone, not on their order, their number or their grouping
(`merged_of_parts`).
-/

namespace EntityAudit

namespace Moment

instance : LinearOrder Moment :=
  LinearOrder.lift' (fun m => toLex (m.seconds, m.nanos)) (by
    rintro ⟨s, n⟩ ⟨t, k⟩ h
    simpa using h)

lemma lt_iff_isBefore {a b : Moment} : a < b ↔ a.isBefore b = true := by
  rw [isBefore_iff]
  exact Prod.Lex.lt_iff

lemma earlier_eq_min (a b : Moment) : a.earlier b = min a b := by
  unfold earlier
  split
  · rename_i h
    exact (min_eq_right (lt_iff_isBefore.mpr h).le).symm
  · rename_i h
    exact (min_eq_left (not_lt.mp fun hlt => h (lt_iff_isBefore.mp hlt))).symm

end Moment

namespace Metadata

def ageBound (m : Metadata) : WithBot ℕ := m.maxAge

def horizon (m : Metadata) : WithTop Moment := m.future

variable {a b c n : Metadata} {l : List Metadata}

lemma ageBound_combine (a b : Metadata) : (a.combine b).ageBound = max a.ageBound b.ageBound := by
  change greatest a.ageBound b.ageBound = max a.ageBound b.ageBound
  cases a.ageBound with
  | bot => exact (max_bot_left b.ageBound).symm
  | coe x =>
    cases b.ageBound with
    | bot => exact (max_bot_right (WithBot.some x)).symm
    | coe y => exact WithBot.coe_max x y

lemma horizon_combine (a b : Metadata) : (a.combine b).horizon = min a.horizon b.horizon := by
  change earliest a.horizon b.horizon = min a.horizon b.horizon
  cases a.horizon with
  | top => exact (min_top_left b.horizon).symm
  | coe x =>
    cases b.horizon with
    | top => exact (min_top_right (WithTop.some x)).symm
    | coe y => exact congrArg WithTop.some (Moment.earlier_eq_min x y)

lemma ext_views (hage : a.ageBound = b.ageBound)
    (hentities : ∀ id, a.entities.contains id = true ↔ b.entities.contains id = true)
    (hhorizon : a.horizon = b.horizon) : a = b := by
  have hsets : a.entities = b.entities := SortedMap.ext_contains hentities
  cases a
  cases b
  cases hage
  cases hsets
  cases hhorizon
  rfl

lemma combine_comm (a b : Metadata) : a.combine b = b.combine a := by
  apply ext_views
  · rw [ageBound_combine, ageBound_combine, max_comm]
  · intro id
    rw [contains_combine, contains_combine, or_comm]
  · rw [horizon_combine, horizon_combine, min_comm]

lemma combine_assoc (a b c : Metadata) : (a.combine b).combine c = a.combine (b.combine c) := by
  apply ext_views
  · simp only [ageBound_combine, max_assoc]
  · intro id
    simp only [contains_combine, or_assoc]
  · simp only [horizon_combine, min_assoc]

lemma combine_self (a : Metadata) : a.combine a = a := by
  apply ext_views
  · rw [ageBound_combine, max_self]
  · intro id
    rw [contains_combine, or_self]
  · rw [horizon_combine, min_self]

lemma blank_combine (a : Metadata) : blank.combine a = a := by
  apply ext_views
  · rw [ageBound_combine]
    exact bot_sup_eq _
  · intro id
    simp [contains_combine, contains_blank]
  · rw [horizon_combine]
    exact top_inf_eq _

instance : Max Metadata := ⟨combine⟩

instance : SemilatticeSup Metadata := .mk' combine_comm combine_assoc combine_self

instance : OrderBot Metadata where
  bot := blank
  bot_le := blank_combine

lemma combine_le_iff : a.combine b ≤ n ↔ a ≤ n ∧ b ≤ n := sup_le_iff

lemma merge_le_iff : merge l ≤ n ↔ ∀ m ∈ l, m ≤ n := by
  have hfold (l : List Metadata) (a : Metadata) : l.foldl combine a ≤ n ↔ a ≤ n ∧ ∀ m ∈ l, m ≤ n := by
    induction l generalizing a with
    | nil => simp
    | cons m l ih => rw [List.foldl_cons, ih, combine_le_iff, List.forall_mem_cons, and_assoc]
  rw [merge, hfold]
  exact and_iff_right bot_le

lemma merge_concat (l : List Metadata) (m : Metadata) : merge (l ++ [m]) = (merge l).combine m := by
  simp only [merge, List.foldl_append, List.foldl_cons, List.foldl_nil]

lemma ageBound_merge (l : List Metadata) : (merge l).ageBound = (l.filterMap (·.maxAge)).maximum := by
  induction l using List.reverseRecOn with
  | nil => rfl
  | append_singleton l m ih =>
    rw [merge_concat, ageBound_combine, ih, List.filterMap_append, ageBound]
    cases hm : m.maxAge with
    | none =>
      rw [List.filterMap_cons_none hm, List.filterMap_nil, List.append_nil]
      exact sup_bot_eq _
    | some n =>
      rw [List.filterMap_cons_some hm, List.filterMap_nil]
      exact (List.maximum_concat n _).symm

lemma horizon_merge (l : List Metadata) : (merge l).horizon = (l.filterMap (·.future)).minimum := by
  induction l using List.reverseRecOn with
  | nil => rfl
  | append_singleton l m ih =>
    rw [merge_concat, horizon_combine, ih, List.filterMap_append, horizon]
    cases hm : m.future with
    | none =>
      rw [List.filterMap_cons_none hm, List.filterMap_nil, List.append_nil]
      exact inf_top_eq _
    | some t =>
      rw [List.filterMap_cons_some hm, List.filterMap_nil]
      exact (List.minimum_concat t _).symm

inductive Merging where
  | part (m : Metadata)
  | two (a b : Merging)
  | list (l : List Merging)

mutual

def Merging.merged : Merging → Metadata
  | .part m => m
  | .two a b => a.merged.combine b.merged
  | .list l => merge (mergedAll l)

def mergedAll : List Merging → List Metadata
  | [] => []
  | a :: l => a.merged :: mergedAll l

end

mutual

def Merging.parts : Merging → List Metadata
  | .part m => [m]
  | .two a b => a.parts ++ b.parts
  | .list l => partsAll l

def partsAll : List Merging → List Metadata
  | [] => []
  | a :: l => a.parts ++ partsAll l

end

mutual

theorem Merging.merged_le_iff : (g : Merging) → (g.merged ≤ n ↔ ∀ m ∈ g.parts, m ≤ n)
  | .part m => by simp [Merging.merged, Merging.parts]
  | .two a b => by
    rw [Merging.merged, combine_le_iff, a.merged_le_iff, b.merged_le_iff, Merging.parts,
      List.forall_mem_append]
  | .list l => by rw [Merging.merged, merge_le_iff, mergedAll_le_iff l, Merging.parts]

theorem mergedAll_le_iff : (l : List Merging) →
    ((∀ m ∈ mergedAll l, m ≤ n) ↔ ∀ m ∈ partsAll l, m ≤ n)
  | [] => by simp [mergedAll, partsAll]
  | a :: l => by
    rw [mergedAll, List.forall_mem_cons, a.merged_le_iff, mergedAll_le_iff l, partsAll, List.forall_mem_append]

end

/-- A merging depends only on which parts other than blank ones it has. It has all their entities, the
least of their moments and the greatest of their ages. -/
theorem merged_of_parts (l : List Metadata) :
    (∀ g : Merging, (∀ m, m ≠ blank → (m ∈ g.parts ↔ m ∈ l)) → g.merged = merge l) ∧
      (∀ id, (merge l).entities.contains id = true ↔ ∃ m ∈ l, m.entities.contains id = true) ∧
      (∀ t, (merge l).future = some t ↔ IsLeast {t | ∃ m ∈ l, m.future = some t} t) ∧
      ((merge l).future = none ↔ ∀ m ∈ l, m.future = none) ∧
      (∀ n, (merge l).maxAge = some n ↔ IsGreatest {n | ∃ m ∈ l, m.maxAge = some n} n) ∧
      ((merge l).maxAge = none ↔ ∀ m ∈ l, m.maxAge = none) := by
  refine ⟨fun g hg => ?_, contains_merge l, fun t => ?_, ?_, fun n => ?_, ?_⟩
  · apply eq_of_forall_ge_iff
    intro n
    rw [g.merged_le_iff, merge_le_iff]
    -- Blank parts are below everything, so they may be on one side only.
    constructor
    · intro h m hm
      by_cases hblank : m = blank
      · exact hblank ▸ bot_le
      · exact h m ((hg m hblank).mpr hm)
    · intro h m hm
      by_cases hblank : m = blank
      · exact hblank ▸ bot_le
      · exact h m ((hg m hblank).mp hm)
  · change (merge l).horizon = WithTop.some t ↔ _
    rw [horizon_merge, List.minimum_eq_coe_iff]
    simp only [List.mem_filterMap]
    rfl
  · change (merge l).horizon = ⊤ ↔ _
    rw [horizon_merge, List.minimum_eq_top, List.filterMap_eq_nil_iff]
  · change (merge l).ageBound = WithBot.some n ↔ _
    rw [ageBound_merge, List.maximum_eq_coe_iff]
    simp only [List.mem_filterMap]
    rfl
  · change (merge l).ageBound = ⊥ ↔ _
    rw [ageBound_merge, List.maximum_eq_bot, List.filterMap_eq_nil_iff]

theorem merged_of_repeated_parts :
    let a : Metadata := { maxAge := some 42, entities := .setOf [.item ⟨1⟩], future := some ⟨1893456000, 0⟩ }
    let b : Metadata := { maxAge := some 7, entities := .setOf [.property ⟨2⟩] }
    let g : Merging := .list [.two (.part a) (.list [.part b, .part blank]), .list [], .part a]
    (∀ m, m ≠ blank → (m ∈ g.parts ↔ m ∈ [b, a])) ∧ g.merged = merge [b, a] ∧
      (merge [b, a]).entities.contains (.item ⟨1⟩) = true ∧ (merge [b, a]).future = some ⟨1893456000, 0⟩ ∧
        (merge [b, a]).maxAge = some 42 := by
  intro a b g
  obtain ⟨hmerged, hentities, -⟩ := merged_of_parts [b, a]
  have hparts : ∀ m, m ≠ blank → (m ∈ g.parts ↔ m ∈ [b, a]) := by
    intro m hm
    simp only [g, Merging.parts, partsAll, List.append_nil, List.nil_append, List.mem_append, List.mem_cons,
      List.not_mem_nil, or_false, hm]
    tauto
  exact ⟨hparts, hmerged g hparts, (hentities _).mpr ⟨a, by simp, by decide⟩, by decide,
    by decide⟩

end Metadata

end EntityAudit
