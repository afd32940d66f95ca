import EntityAudit.Proofs.Counting.Group
import EntityAudit.Proofs.Cursor
import EntityAudit.Proofs.Encoding.Equality

/-!
What separators compare. Statements are told apart by the hashes of their qualifiers, and a hash keeps the sign of a
zero, which equality does not see. So statements with equal qualifiers are counted together, unless their qualifiers
differ in the signs of zeros (`shared_iff_equal_iff_not_splitByZeros`).
-/

namespace EntityAudit

open Sha256

lemma rel_iff_map_eq_map {α β : Type} {r : α → α → Prop} {f : α → β} {a b : Multiset α}
    (h : ∀ x ∈ a, ∀ y ∈ b, r x y ↔ f x = f y) : Multiset.Rel r a b ↔ a.map f = b.map f := by
  rw [← Multiset.rel_eq, Multiset.rel_map]
  exact ⟨fun hr => hr.mono fun x hx y hy => (h x hx y hy).mp, fun hr => hr.mono fun x hx y hy => (h x hx y hy).mpr⟩

namespace Statement

def qualifierSnaks (s : Statement) (p : PropertyId) : Multiset Snak := (s.qualifiersOf p : List Snak)

def separating (s : Statement) (separators : List PropertyId) : List Snak := separators.flatMap s.qualifiersOf

variable {s t : Statement} {separators : List PropertyId} {p : PropertyId}

lemma mem_separating {q : Snak} (hp : p ∈ separators) (hq : q ∈ s.qualifierSnaks p) : q ∈ s.separating separators :=
  List.mem_flatMap.mpr ⟨p, hp, hq⟩

lemma qualifierHashes_eq_map : s.qualifierHashes p = (s.qualifierSnaks p).map Snak.hash := rfl

end Statement

/-- For each separator the qualifiers of both statements can be paired off so that both of a pair are equal, in the
sense in which the rule about unique values compares snaks. -/
def EqualQualifiers (separators : List PropertyId) (s t : Statement) : Prop :=
  ∀ p ∈ separators, Multiset.Rel (fun a b => (a == b) = true) (s.qualifierSnaks p) (t.qualifierSnaks p)

/-- For each separator the qualifiers are the same but for the signs of zeros, and for one of them not with the signs. -/
def SplitByZeros (separators : List PropertyId) (s t : Statement) : Prop :=
  (∀ p ∈ separators, (s.qualifierSnaks p).map Snak.unsignZeros = (t.qualifierSnaks p).map Snak.unsignZeros) ∧
    ∃ p ∈ separators, s.qualifierSnaks p ≠ t.qualifierSnaks p

section Shared

variable {separators : List PropertyId} {s t : Statement}

lemma equalQualifiers_iff
    (hnumbers : ∀ q ∈ s.separating separators ++ t.separating separators, ∀ x ∈ q.numbers, x.isFinite = true) :
    EqualQualifiers separators s t ↔
      ∀ p ∈ separators, (s.qualifierSnaks p).map Snak.unsignZeros = (t.qualifierSnaks p).map Snak.unsignZeros := by
  obtain ⟨hs, ht⟩ := List.forall_mem_append.mp hnumbers
  refine forall₂_congr fun p hp => rel_iff_map_eq_map fun a ha b hb => ?_
  exact Snak.beq_iff_unsignZeros (hs a (Statement.mem_separating hp ha)) (ht b (Statement.mem_separating hp hb))

lemma sharesSeparators_iff_same
    (hnumbers : ∀ q ∈ s.separating separators ++ t.separating separators, ∀ x ∈ q.numbers, x.isFinite = true)
    (hfree : CollisionFree ((s.separating separators ++ t.separating separators).map Snak.digested)) :
    sharesSeparators separators s t = true ↔ ∀ p ∈ separators, s.qualifierSnaks p = t.qualifierSnaks p := by
  obtain ⟨hs, ht⟩ := List.forall_mem_append.mp hnumbers
  rw [sharesSeparators_iff]
  refine forall₂_congr fun p hp => ?_
  have hhash : ∀ a ∈ s.qualifierSnaks p, ∀ b ∈ t.qualifierSnaks p, a = b ↔ a.hash = b.hash := by
    intro a ha b hb
    have has := Statement.mem_separating hp ha
    have hbt := Statement.mem_separating hp hb
    have hmem : [a, b] ⊆ s.separating separators ++ t.separating separators := by simp [has, hbt]
    have hpair : CollisionFree [a.digested, b.digested] := hfree.mono (List.map_subset Snak.digested hmem)
    exact ⟨congrArg Snak.hash, Snak.eq_of_hash (hs a has) (ht b hbt) hpair⟩
  rw [Statement.qualifierHashes_eq_map, Statement.qualifierHashes_eq_map, ← rel_iff_map_eq_map hhash]
  exact Multiset.rel_eq

/-- Statements are counted together if for each separator their qualifiers are the same, also in the signs of zeros, as
long as the numbers are finite and no two of the texts that are digested share a digest. So being counted together
means having equal qualifiers, for all statements that are not split by zeros and for no others. -/
theorem shared_iff_equal_iff_not_splitByZeros (separators : List PropertyId) (s t : Statement)
    (hnumbers : ∀ q ∈ s.separating separators ++ t.separating separators, ∀ x ∈ q.numbers, x.isFinite = true)
    (hfree : CollisionFree ((s.separating separators ++ t.separating separators).map Snak.digested)) :
    (sharesSeparators separators s t = true ↔ ∀ p ∈ separators, s.qualifierSnaks p = t.qualifierSnaks p) ∧
      ((sharesSeparators separators s t = true ↔ EqualQualifiers separators s t) ↔
        ¬ SplitByZeros separators s t) := by
  have hshared := sharesSeparators_iff_same hnumbers hfree
  refine ⟨hshared, ?_⟩
  have hsplit : SplitByZeros separators s t ↔ EqualQualifiers separators s t ∧
      ¬ ∀ p ∈ separators, s.qualifierSnaks p = t.qualifierSnaks p := by
    simp only [SplitByZeros, equalQualifiers_iff hnumbers, not_forall, exists_prop]
  have hequal : (∀ p ∈ separators, s.qualifierSnaks p = t.qualifierSnaks p) → EqualQualifiers separators s t :=
    fun h => (equalQualifiers_iff hnumbers).mpr fun p hp => congrArg (Multiset.map Snak.unsignZeros) (h p hp)
  rw [hshared, hsplit, not_and_not_right]
  exact ⟨Iff.mpr, fun h => ⟨hequal, h⟩⟩

end Shared

namespace Sample

def amount (x : Float) : Snak := .value start (.quantity { amount := x })

def begun (n : UInt64) (amounts : List Float) : Statement := held .normal n (amounts.map amount)

lemma qualifiersOf_begun (n : UInt64) (amounts : List Float) :
    (begun n amounts).qualifiersOf start = amounts.map amount := by
  simp [Statement.qualifiersOf, begun, held, amount, Snak.property]

lemma separating_begun (n : UInt64) (amounts : List Float) :
    (begun n amounts).separating [start] = amounts.map amount := by
  rw [Statement.separating, List.flatMap_singleton, qualifiersOf_begun]

lemma qualifierSnaks_begun (n : UInt64) (amounts : List Float) :
    (begun n amounts).qualifierSnaks start = Multiset.map amount amounts :=
  congrArg Multiset.ofList (qualifiersOf_begun n amounts)

lemma digest_zeros_ne : ofString (amount 0).digested ≠ ofString (amount (-0)).digested := by decide +kernel

lemma collisionFree_zeros : CollisionFree [(amount 0).digested, (amount (-0)).digested] := by
  simp [CollisionFree, digest_zeros_ne, digest_zeros_ne.symm]

end Sample

open Sample

theorem split_by_sign_of_zero :
    let s := begun 2 [0]
    let t := begun 3 [-0]
    (∀ q ∈ s.separating [start] ++ t.separating [start], ∀ x ∈ q.numbers, x.isFinite = true) ∧
      CollisionFree ((s.separating [start] ++ t.separating [start]).map Snak.digested) ∧
      EqualQualifiers [start] s t ∧ sharesSeparators [start] s t = false := by
  intro s t
  have hnumbers : ∀ q ∈ s.separating [start] ++ t.separating [start], ∀ x ∈ q.numbers, x.isFinite = true := by
    decide
  have hfree : CollisionFree ((s.separating [start] ++ t.separating [start]).map Snak.digested) := by
    rw [separating_begun, separating_begun]
    exact collisionFree_zeros
  have hs : s.qualifierSnaks start = {amount 0} := qualifierSnaks_begun 2 [0]
  have ht : t.qualifierSnaks start = {amount (-0)} := qualifierSnaks_begun 3 [-0]
  refine ⟨hnumbers, hfree, fun p hp => ?_, ?_⟩
  · obtain rfl := List.mem_singleton.mp hp
    rw [hs, ht]
    have hzeros : (amount 0 == amount (-0)) = true := by decide
    exact .cons hzeros .zero
  · rw [Bool.eq_false_iff, Ne, sharesSeparators_iff_same hnumbers hfree]
    intro h
    have hsame := h start (List.mem_singleton_self start)
    rw [hs, ht, Multiset.singleton_inj] at hsame
    exact digest_zeros_ne (by rw [hsame])

theorem shared_of_both_zeros :
    let s := begun 2 [0, -0]
    let t := begun 3 [-0, 0]
    (∀ q ∈ s.separating [start] ++ t.separating [start], ∀ x ∈ q.numbers, x.isFinite = true) ∧
      CollisionFree ((s.separating [start] ++ t.separating [start]).map Snak.digested) ∧
      sharesSeparators [start] s t = true ∧ EqualQualifiers [start] s t := by
  intro s t
  have hnumbers : ∀ q ∈ s.separating [start] ++ t.separating [start], ∀ x ∈ q.numbers, x.isFinite = true := by
    decide
  have hfree : CollisionFree ((s.separating [start] ++ t.separating [start]).map Snak.digested) := by
    rw [separating_begun, separating_begun]
    exact collisionFree_zeros.mono (by simp)
  obtain ⟨hshared, hequal⟩ := shared_iff_equal_iff_not_splitByZeros [start] s t hnumbers hfree
  have hsame : ∀ p ∈ [start], s.qualifierSnaks p = t.qualifierSnaks p := by
    intro p hp
    obtain rfl := List.mem_singleton.mp hp
    rw [qualifierSnaks_begun, qualifierSnaks_begun]
    exact congrArg (Multiset.map amount) (Multiset.coe_eq_coe.mpr (List.Perm.swap _ _ _))
  have hs := hshared.mpr hsame
  refine ⟨hnumbers, hfree, hs, (hequal.mpr ?_).mp hs⟩
  rintro ⟨-, p, hp, hne⟩
  exact hne (hsame p hp)

end EntityAudit
