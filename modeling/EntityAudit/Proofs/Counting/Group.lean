import EntityAudit.Proofs.ResultTree
import EntityAudit.Rule.Cardinality
import Mathlib.Algebra.Ring.Nat
import Mathlib.Data.List.Pairwise
import Mathlib.Data.Multiset.Defs

/-!
Statements that are counted together. The statements of a property fall into groups by the qualifiers that
they have for some separators. The count of a value is the size of its group, whichever way it is counted, and
the groups make up all values of the property.
-/

namespace EntityAudit

def Statement.qualifierHashes (s : Statement) (p : PropertyId) : Multiset String :=
  ((s.qualifiersOf p).map (·.hash) : List String)

/-- One property, and for each separator the same qualifiers, as often. -/
def SameGroup (separators : List PropertyId) (s t : Statement) : Prop :=
  s.property = t.property ∧ ∀ p ∈ separators, s.qualifierHashes p = t.qualifierHashes p

instance (separators : List PropertyId) (s t : Statement) : Decidable (SameGroup separators s t) :=
  inferInstanceAs (Decidable (_ ∧ ∀ p ∈ separators, s.qualifierHashes p = t.qualifierHashes p))

def Context.ofMain (e : Entity) (x : Statement × Nat) : Context := ⟨e, x.1, x.2, .mainSnak⟩

namespace Entity

def candidates (e : Entity) : Grouping → List (Statement × Nat)
  | .nonDeprecated => e.statements.placed.filter fun x => !x.1.isDeprecated
  | .best => e.statements.best

/-- One statement of each group of a property. -/
structure Represents (e : Entity) (separators : List PropertyId) (p : PropertyId)
    (l : List (Statement × Nat)) : Prop where
  values : ∀ x ∈ l, x ∈ e.candidates .nonDeprecated ∧ x.1.property = p
  apart : l.Pairwise fun x y => ¬ SameGroup separators x.1 y.1
  exhaustive : ∀ y ∈ e.candidates .nonDeprecated, y.1.property = p → ∃ x ∈ l, SameGroup separators x.1 y.1

end Entity

variable {separators : List PropertyId} {s t : Statement}

lemma sameGroup_equivalence (separators : List PropertyId) : Equivalence (SameGroup separators) where
  refl _ := ⟨rfl, fun _ _ => rfl⟩
  symm h := ⟨h.1.symm, fun p hp => (h.2 p hp).symm⟩
  trans h k := ⟨h.1.trans k.1, fun p hp => (h.2 p hp).trans (k.2 p hp)⟩

lemma SameGroup.iff_left {u : Statement} (h : SameGroup separators s t) :
    SameGroup separators s u ↔ SameGroup separators t u :=
  ⟨(sameGroup_equivalence separators).trans ((sameGroup_equivalence separators).symm h),
    (sameGroup_equivalence separators).trans h⟩

lemma mergeSort_eq_iff_perm {l k : List String} : l.mergeSort = k.mergeSort ↔ l.Perm k := by
  have hperm (l : List String) : l.mergeSort.Perm l := List.mergeSort_perm l _
  constructor
  · intro h
    exact (hperm l).symm.trans (h ▸ hperm k)
  · intro h
    have hsorted (l : List String) : l.mergeSort.Pairwise fun a b => decide (a ≤ b) = true := by
      apply List.pairwise_mergeSort
      · intro a b c hab hbc
        exact decide_eq_true (String.le_trans (of_decide_eq_true hab) (of_decide_eq_true hbc))
      · intro a b
        simpa using String.le_total a b
    have hanti : ∀ a b : String, a ∈ l.mergeSort → b ∈ k.mergeSort → decide (a ≤ b) = true →
        decide (b ≤ a) = true → a = b := fun a b _ _ hab hba =>
      String.le_antisymm (of_decide_eq_true hab) (of_decide_eq_true hba)
    exact ((hperm l).trans (h.trans (hperm k).symm)).eq_of_pairwise hanti (hsorted l) (hsorted k)

lemma sharesSeparators_iff : sharesSeparators separators s t = true ↔
    ∀ p ∈ separators, s.qualifierHashes p = t.qualifierHashes p := by
  simp only [sharesSeparators, List.all_eq_true, beq_iff_eq, mergeSort_eq_iff_perm,
    Statement.qualifierHashes, Multiset.coe_eq_coe]

lemma count_tally (l : List Statement) (p : PropertyId) :
    ((tally l).get? p).getD 0 = l.countP fun t => !t.isDeprecated && t.property = p := by
  have hstep (k : List Statement) (m : SortedMap PropertyId Nat) :
      ((k.foldl (fun m s => m.alter s.property fun n => n.getD 0 + 1) m).get? p).getD 0 =
        (m.get? p).getD 0 + k.countP (·.property = p) := by
    induction k generalizing m with
    | nil => rfl
    | cons s k ih =>
      rw [List.foldl_cons, ih, SortedMap.get?_alter, List.countP_cons]
      by_cases h : s.property = p
      · simp only [h, if_true, Option.getD_some, decide_true]
        omega
      · simp [h]
  rw [tally, hstep, List.countP_filter]
  simp [SortedMap.get?_empty, Bool.and_comm]

namespace Entity

variable {e : Entity} {grouping : Grouping} {x y : Statement × Nat} {p : PropertyId}

lemma eq_of_position (hx : x ∈ e.statements.placed) (hy : y ∈ e.statements.placed) (h : x.2 = y.2) : x = y := by
  have hx' := List.mem_zipIdx_iff_getElem?.mp hx
  have hy' := List.mem_zipIdx_iff_getElem?.mp hy
  rw [h, hy'] at hx'
  exact Prod.ext (Option.some.inj hx').symm h

lemma placed_of_candidate (h : x ∈ e.candidates grouping) : x ∈ e.statements.placed := by
  cases grouping with
  | nonDeprecated => exact List.mem_of_mem_filter h
  | best => exact List.mem_of_mem_filter h

lemma countP_values (q : Statement → Bool) :
    (e.candidates .nonDeprecated).countP (fun x => q x.1) =
      e.statements.toList.countP fun t => !t.isDeprecated && q t := by
  have hplaced : e.statements.placed.map Prod.fst = e.statements.toList := List.zipIdx_map_fst 0 _
  rw [candidates, List.countP_filter, ← hplaced, List.countP_map]
  exact List.countP_congr fun x _ => by simp [and_comm]

lemma statementGroup_of_candidate (h : x ∈ e.candidates grouping) :
    (Context.ofMain e x).statementGroup grouping separators =
      (e.candidates grouping).filter fun y => sharesSeparators separators x.1 y.1 := by
  have hself : sharesSeparators separators x.1 x.1 = true := sharesSeparators_iff.mpr fun _ _ => rfl
  have hown : ((e.candidates grouping).filter fun y => sharesSeparators separators x.1 y.1).any
      (·.2 == x.2) = true :=
    List.any_eq_true.mpr ⟨x, List.mem_filter.mpr ⟨h, hself⟩, beq_self_eq_true x.2⟩
  cases grouping with
  | nonDeprecated => exact if_pos hown
  | best => exact if_pos hown

lemma countIn_group (h : x ∈ e.candidates grouping) :
    (Context.ofMain e x).countIn ((Context.ofMain e x).group grouping separators) =
      (e.candidates grouping).countP fun y => SameGroup separators x.1 y.1 := by
  change (((Context.ofMain e x).statementGroup grouping separators).map (·.1.mainSnak)).countP
    (·.property = x.1.property) = _
  rw [statementGroup_of_candidate h, List.countP_map, List.countP_filter]
  refine List.countP_congr fun y _ => ?_
  rw [Function.comp_apply, Bool.and_eq_true, decide_eq_true_eq, decide_eq_true_eq, sharesSeparators_iff]
  exact and_congr_left fun _ => eq_comm

lemma count_property (h : x ∈ e.candidates .nonDeprecated) :
    (e.statements.propertyCounts.get? x.1.property).getD 0 =
      (Context.ofMain e x).countIn ((Context.ofMain e x).group .nonDeprecated []) := by
  rw [countIn_group h, StatementList.propertyCounts_eq, count_tally,
    countP_values fun t => SameGroup [] x.1 t]
  refine List.countP_congr fun t _ => ?_
  rw [Bool.and_eq_true, Bool.and_eq_true, decide_eq_true_eq, decide_eq_true_eq]
  exact and_congr_right fun _ => ⟨fun h => ⟨h.symm, nofun⟩, fun h => h.1.symm⟩

lemma valueCount_eq_countIn (h : x ∈ e.candidates .nonDeprecated) :
    (Context.ofMain e x).valueCount separators =
      (Context.ofMain e x).countIn ((Context.ofMain e x).group .nonDeprecated separators) := by
  cases separators with
  | nil => exact (if_pos ⟨rfl, rfl⟩).trans (count_property h)
  | cons p l => exact if_neg fun hnil => Bool.false_ne_true hnil.2

lemma valueCount_eq (h : x ∈ e.candidates .nonDeprecated) :
    (Context.ofMain e x).valueCount separators =
      e.statements.toList.countP fun t => !t.isDeprecated && SameGroup separators x.1 t := by
  rw [valueCount_eq_countIn h, countIn_group h, countP_values fun t => SameGroup separators x.1 t]

end Entity

section Representatives

variable {α : Type} {r : α → α → Prop} [DecidableRel r]

lemma countP_of_pairwise (hr : Equivalence r) {l : List α} (hl : l.Pairwise fun a b => ¬ r a b) (b : α) :
    l.countP (r · b) = if ∃ a ∈ l, r a b then 1 else 0 := by
  induction l with
  | nil => simp
  | cons a l ih =>
    obtain ⟨ha, hl⟩ := List.pairwise_cons.mp hl
    rw [List.countP_cons, ih hl]
    by_cases hab : r a b
    · have hnone : ¬ ∃ c ∈ l, r c b := fun ⟨c, hc, hcb⟩ => ha c hc (hr.trans hab (hr.symm hcb))
      simp [hab, hnone]
    · simp [hab]

lemma sum_map_add_countP (f : α → Nat) (q : α → Bool) (l : List α) :
    (l.map fun a => f a + if q a then 1 else 0).sum = (l.map f).sum + l.countP q := by
  induction l with
  | nil => rfl
  | cons a l ih =>
    rw [List.map_cons, List.sum_cons, List.map_cons, List.sum_cons, List.countP_cons, ih]
    omega

lemma sum_countP_of_pairwise (hr : Equivalence r) {l : List α} (hl : l.Pairwise fun a b => ¬ r a b) (k : List α) :
    (l.map fun a => k.countP (r a ·)).sum = k.countP fun b => ∃ a ∈ l, r a b := by
  induction k with
  | nil => simp
  | cons b k ih =>
    have hb := sum_map_add_countP (fun a => k.countP (r a ·)) (r · b) l
    simp only [List.countP_cons, ih, countP_of_pairwise hr hl, decide_eq_true_eq] at hb ⊢
    exact hb

lemma exists_pairwise (hr : Equivalence r) (k : List α) :
    ∃ l ⊆ k, (l.Pairwise fun a b => ¬ r a b) ∧ ∀ b ∈ k, ∃ a ∈ l, r a b := by
  refine ⟨k.pwFilter fun a b => ¬ r a b, List.pwFilter_subset k, List.pairwise_pwFilter k, fun b hb => ?_⟩
  by_contra hnone
  have hapart : ∀ a ∈ k.pwFilter fun a b => ¬ r a b, ¬ r b a := fun a ha hba =>
    hnone ⟨a, ha, hr.symm hba⟩
  refine (List.forall_mem_pwFilter (R := fun a b => ¬ r a b) ?_ b k).mp hapart b hb (hr.refl b)
  intro x y z hxz
  by_contra h
  rw [not_or, not_not, not_not] at h
  exact hxz (hr.trans h.1 h.2)

end Representatives

namespace Entity

variable {e : Entity} {x : Statement × Nat} {p : PropertyId} {l : List (Statement × Nat)}

lemma exists_represents (e : Entity) (separators : List PropertyId) (p : PropertyId) :
    ∃ l, e.Represents separators p l := by
  have hgroups : Equivalence fun x y : Statement × Nat => SameGroup separators x.1 y.1 :=
    (sameGroup_equivalence separators).comap Prod.fst
  obtain ⟨l, hl, hapart, hall⟩ :=
    exists_pairwise hgroups ((e.candidates .nonDeprecated).filter (·.1.property = p))
  simp only [List.mem_filter, decide_eq_true_eq, and_imp] at hall
  exact ⟨l, fun x hx => by simpa using hl hx, hapart, hall⟩

lemma Represents.sum_valueCount (h : e.Represents separators p l) :
    (l.map fun x => (Context.ofMain e x).valueCount separators).sum =
      (e.statements.propertyCounts.get? p).getD 0 := by
  have hgroups : Equivalence fun x y : Statement × Nat => SameGroup separators x.1 y.1 :=
    (sameGroup_equivalence separators).comap Prod.fst
  have hcount : ∀ x ∈ l, (Context.ofMain e x).valueCount separators =
      (e.candidates .nonDeprecated).countP fun y => SameGroup separators x.1 y.1 := fun x hx =>
    (valueCount_eq_countIn (h.values x hx).1).trans (countIn_group (h.values x hx).1)
  rw [List.map_congr_left hcount, sum_countP_of_pairwise hgroups h.apart, StatementList.propertyCounts_eq,
    count_tally, ← countP_values (·.property = p)]
  refine List.countP_congr fun y hy => ?_
  rw [decide_eq_true_eq, decide_eq_true_eq]
  constructor
  · rintro ⟨x, hx, hxy⟩
    exact hxy.1.symm.trans (h.values x hx).2
  · exact h.exhaustive y hy

/-- The count of a value is the size of its group, also where it is looked up in the counts of the properties, and
the groups of a property make up its count. -/
theorem counts_of_groups (e : Entity) (separators : List PropertyId) :
    (∀ x ∈ e.statements.placed, x.1.isDeprecated = false →
      (Context.ofMain e x).valueCount separators =
        e.statements.toList.countP fun t => !t.isDeprecated && SameGroup separators x.1 t) ∧
    (∀ x ∈ e.statements.placed, x.1.isDeprecated = false →
      (e.statements.propertyCounts.get? x.1.property).getD 0 =
        (Context.ofMain e x).countIn ((Context.ofMain e x).group .nonDeprecated [])) ∧
    Equivalence (SameGroup separators) ∧
    (∀ s t, SameGroup separators s t ↔ s.property = t.property ∧ sharesSeparators separators s t = true) ∧
    (∀ x ∈ e.statements.placed, ∀ y ∈ e.statements.placed, x.1.isDeprecated = false →
      y.1.isDeprecated = false → SameGroup separators x.1 y.1 →
        (Context.ofMain e x).valueCount separators = (Context.ofMain e y).valueCount separators) ∧
    ∀ p, (∃ l, e.Represents separators p l) ∧ ∀ l, e.Represents separators p l →
      (l.map fun x => (Context.ofMain e x).valueCount separators).sum =
        (e.statements.propertyCounts.get? p).getD 0 := by
  have hcandidate : ∀ x ∈ e.statements.placed, x.1.isDeprecated = false → x ∈ e.candidates .nonDeprecated :=
    fun x hx hx' => List.mem_filter.mpr ⟨hx, by rw [hx', Bool.not_false]⟩
  refine ⟨fun x hx hx' => valueCount_eq (hcandidate x hx hx'), fun x hx hx' => count_property (hcandidate x hx hx'),
    sameGroup_equivalence separators, fun _ _ => and_congr_right fun _ => sharesSeparators_iff.symm,
    fun x hx y hy hx' hy' hxy => ?_,
    fun p => ⟨exists_represents e separators p, fun l => Represents.sum_valueCount⟩⟩
  rw [valueCount_eq (hcandidate x hx hx'), valueCount_eq (hcandidate y hy hy')]
  refine List.countP_congr fun t _ => ?_
  rw [Bool.and_eq_true, Bool.and_eq_true, decide_eq_true_eq, decide_eq_true_eq, hxy.iff_left]

end Entity

namespace Sample

def office : PropertyId := ⟨39⟩

def start : PropertyId := ⟨580⟩

def held (rank : Rank) (n : UInt64) (qualifiers : List Snak) : Statement where
  guid := "Q1$" ++ (ItemId.mk n).toString
  mainSnak := .value office (.entity (.item ⟨n⟩))
  rank := rank
  qualifiers := qualifiers

def official : Entity where
  id := .item ⟨1⟩
  statements := .ofList [held .normal 2 [], held .normal 3 [.someValue start], held .deprecated 4 [],
    held .preferred 5 []]

end Sample

namespace Entity

open Sample

theorem counts_of_official :
    let x := (held .normal 2 [], 0)
    let y := (held .normal 3 [.someValue start], 1)
    let z := (held .preferred 5 [], 3)
    official.Represents [start] office [x, y] ∧ (Context.ofMain official x).valueCount [start] = 2 ∧
      (Context.ofMain official z).valueCount [start] = 2 ∧
      (Context.ofMain official x).valueCount [start] + (Context.ofMain official y).valueCount [start] = 3 := by
  intro x y z
  have hvalues : official.candidates .nonDeprecated = [x, y, z] := rfl
  have hxz : SameGroup [start] x.1 z.1 := by decide
  have hrepresents : official.Represents [start] office [x, y] := by
    refine ⟨fun t ht => ?_, by decide, fun t ht _ => ?_⟩
    · rw [hvalues]
      simp only [List.mem_cons, List.not_mem_nil, or_false] at ht
      rcases ht with rfl | rfl
      · exact ⟨by simp, rfl⟩
      · exact ⟨by simp, rfl⟩
    · rw [hvalues] at ht
      simp only [List.mem_cons, List.not_mem_nil, or_false] at ht
      rcases ht with rfl | rfl | rfl
      · exact ⟨x, by simp, (sameGroup_equivalence [start]).refl x.1⟩
      · exact ⟨y, by simp, (sameGroup_equivalence [start]).refl y.1⟩
      · exact ⟨x, by simp, hxz⟩
  obtain ⟨hcount, -, -, -, hsame, hsum⟩ := counts_of_groups official [start]
  have hplaced : ∀ t ∈ [x, y, z], t ∈ official.statements.placed := fun t ht =>
    placed_of_candidate (hvalues ▸ ht)
  have hx : (Context.ofMain official x).valueCount [start] = 2 :=
    (hcount x (hplaced x (by simp)) rfl).trans (by decide)
  refine ⟨hrepresents, hx, ?_, ?_⟩
  · rw [← hsame x (hplaced x (by simp)) z (hplaced z (by simp)) rfl rfl hxz, hx]
  · exact ((hsum office).2 [x, y] hrepresents).trans (by decide)

end Entity

end EntityAudit
