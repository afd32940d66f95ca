import EntityAudit.Proofs.Pairs
import Mathlib.Data.List.Forall2

/-!
Where the results of an entity come from. A pair of a snak and a constraint has an address: the position
of the statement, that of the snak within the statement, and that of the constraint among those of the
property. Each address has one result, in the order of the addresses.
-/

namespace EntityAudit

inductive Slot where
  | mainSnak
  | qualifier (i : Nat)
  | reference (i j : Nat)

namespace Slot

inductive Before : Slot → Slot → Prop
  | main_qualifier (i : Nat) : Before mainSnak (qualifier i)
  | main_reference (i j : Nat) : Before mainSnak (reference i j)
  | qualifiers {i j : Nat} (h : i < j) : Before (qualifier i) (qualifier j)
  | qualifier_reference (i j k : Nat) : Before (qualifier i) (reference j k)
  | references {i k : Nat} (h : i < k) (j l : Nat) : Before (reference i j) (reference k l)
  | snaks (i : Nat) {j l : Nat} (h : j < l) : Before (reference i j) (reference i l)

def place? (s : Statement) : Slot → Option Place
  | mainSnak => some .mainSnak
  | qualifier i => s.qualifiers[i]?.map .qualifier
  | reference i j => s.references[i]?.bind fun r => r.snaks[j]?.map (.reference r)

lemma Before.irrefl (x : Slot) : ¬ x.Before x := by
  intro h
  cases h with
  | qualifiers h => exact Nat.lt_irrefl _ h
  | references h => exact Nat.lt_irrefl _ h
  | snaks _ h => exact Nat.lt_irrefl _ h

end Slot

structure Address where
  statement : Nat
  slot : Slot
  constraint : Nat

namespace Address

inductive Before : Address → Address → Prop
  | statements {i j : Nat} (h : i < j) (x y : Slot) (k l : Nat) : Before ⟨i, x, k⟩ ⟨j, y, l⟩
  | slots (i : Nat) {x y : Slot} (h : x.Before y) (k l : Nat) : Before ⟨i, x, k⟩ ⟨i, y, l⟩
  | constraints (i : Nat) (x : Slot) {k l : Nat} (h : k < l) : Before ⟨i, x, k⟩ ⟨i, x, l⟩

lemma Before.irrefl (x : Address) : ¬ x.Before x := by
  intro h
  cases h with
  | statements h => exact Nat.lt_irrefl _ h
  | slots _ h => exact Slot.Before.irrefl _ h
  | constraints _ _ h => exact Nat.lt_irrefl _ h

lemma nodup_of_before {l : List Address} (h : l.Pairwise Before) : l.Nodup := by
  apply h.imp
  rintro x y hxy rfl
  exact Before.irrefl x hxy

end Address

section Positions

variable {α β : Type}

lemma pairwise_zipIdx (l : List α) (n : Nat) : (l.zipIdx n).Pairwise fun x y => x.2 < y.2 := by
  induction l generalizing n with
  | nil => exact .nil
  | cons a l ih => exact List.pairwise_cons.mpr ⟨fun _ hx => List.le_snd_of_mem_zipIdx hx, ih (n + 1)⟩

lemma map_zipIdx (f : α → β) (l : List α) : l.zipIdx.map (fun x => f x.1) = l.map f := by
  conv_rhs => rw [← List.zipIdx_map_fst 0 l, List.map_map]
  rfl

lemma flatMap_zipIdx (f : α → List β) (l : List α) : l.zipIdx.flatMap (fun x => f x.1) = l.flatMap f := by
  conv_rhs => rw [← List.zipIdx_map_fst 0 l, List.flatMap_map]

end Positions

namespace Statement

def slots (s : Statement) : List (Slot × Place) :=
  (.mainSnak, .mainSnak) :: s.qualifiers.zipIdx.map (fun x => (.qualifier x.2, .qualifier x.1)) ++
    s.references.zipIdx.flatMap fun x => x.1.snaks.zipIdx.map fun y =>
      (.reference x.2 y.2, .reference x.1 y.1)

lemma map_slots (e : Entity) (s : Statement) (i : Nat) :
    s.slots.map (fun x => (⟨e, s, i, x.2⟩ : Context)) = Context.ofStatement e s i := by
  have hqualifiers := map_zipIdx (fun snak => (⟨e, s, i, .qualifier snak⟩ : Context)) s.qualifiers
  have hreferences := flatMap_zipIdx
    (fun r : Reference => r.snaks.map fun snak => (⟨e, s, i, .reference r snak⟩ : Context)) s.references
  have hsnaks (r : Reference) :=
    map_zipIdx (fun snak => (⟨e, s, i, .reference r snak⟩ : Context)) r.snaks
  simp only [slots, Context.ofStatement, List.map_append, List.map_cons, List.map_map, List.map_flatMap,
    Function.comp_def, hqualifiers, hsnaks, hreferences]

lemma mem_slots_iff {s : Statement} {x : Slot} {place : Place} :
    (x, place) ∈ s.slots ↔ x.place? s = some place := by
  simp only [slots, List.cons_append, List.mem_cons, List.mem_append, List.mem_map, List.mem_flatMap,
    Prod.mk.injEq, Prod.exists, List.mem_zipIdx_iff_getElem?]
  cases x with
  | mainSnak => simp [Slot.place?, eq_comm]
  | qualifier i => simp [Slot.place?]
  | reference i j => simp [Slot.place?, and_assoc, Option.bind_eq_some_iff]

lemma pairwise_slots (s : Statement) : s.slots.Pairwise fun x y => x.1.Before y.1 := by
  rw [slots, List.cons_append, List.pairwise_cons, List.pairwise_append, List.pairwise_map,
    List.pairwise_flatMap]
  refine ⟨?_, (pairwise_zipIdx _ 0).imp fun h => .qualifiers h, ⟨?_, ?_⟩, ?_⟩
  · intro y hy
    rcases List.mem_append.mp hy with hy | hy
    · obtain ⟨q, -, rfl⟩ := List.mem_map.mp hy
      exact .main_qualifier _
    · obtain ⟨r, -, hy⟩ := List.mem_flatMap.mp hy
      obtain ⟨q, -, rfl⟩ := List.mem_map.mp hy
      exact .main_reference _ _
  · intro r _
    rw [List.pairwise_map]
    exact (pairwise_zipIdx _ 0).imp fun h => .snaks _ h
  · apply (pairwise_zipIdx _ 0).imp
    intro r t h x hx y hy
    obtain ⟨q, -, rfl⟩ := List.mem_map.mp hx
    obtain ⟨u, -, rfl⟩ := List.mem_map.mp hy
    exact .references h _ _
  · intro x hx y hy
    obtain ⟨q, -, rfl⟩ := List.mem_map.mp hx
    obtain ⟨r, -, hy⟩ := List.mem_flatMap.mp hy
    obtain ⟨u, -, rfl⟩ := List.mem_map.mp hy
    exact .qualifier_reference _ _ _

end Statement

namespace Auditor

variable {a : Auditor} {e : Entity}

/-- The pair at an address. Deprecated statements have no pairs. -/
def pairAt? (a : Auditor) (e : Entity) (x : Address) : Option Pair := do
  let s ← e.statements.toList[x.statement]?.filter (!·.isDeprecated)
  let place ← x.slot.place? s
  let context : Context := ⟨e, s, x.statement, place⟩
  let c ← (a.constraints context.property)[x.constraint]?
  return (context, c)

def addressed (a : Auditor) (e : Entity) : List (Address × Pair) :=
  (e.statements.placed.filter fun s => !s.1.isDeprecated).flatMap fun s =>
    s.1.slots.flatMap fun x =>
      let context : Context := ⟨e, s.1, s.2, x.2⟩
      (a.constraints context.property).zipIdx.map fun c => (⟨s.2, x.1, c.2⟩, context, c.1)

lemma map_addressed (a : Auditor) (e : Entity) :
    (a.addressed e).map (·.2) =
      (e.statements.placed.filter fun s => !s.1.isDeprecated).flatMap (a.statementPairs e) := by
  have hconstraints (context : Context) :=
    map_zipIdx (fun c => (context, c)) (a.constraints context.property)
  rw [addressed, List.map_flatMap]
  apply List.flatMap_congr
  intro s _
  rw [statementPairs, ← Statement.map_slots, List.flatMap_map, List.map_flatMap]
  apply List.flatMap_congr
  intro x _
  rw [List.map_map]
  exact hconstraints ⟨e, s.1, s.2, x.2⟩

lemma pairAt?_eq_some_iff {x : Address} {p : Pair} :
    a.pairAt? e x = some p ↔ ∃ s, e.statements.toList[x.statement]? = some s ∧ s.isDeprecated = false ∧
      ∃ place, x.slot.place? s = some place ∧
        ∃ c, (a.constraints (Context.mk e s x.statement place).property)[x.constraint]? = some c ∧
          (⟨e, s, x.statement, place⟩, c) = p := by
  simp only [pairAt?, Option.bind_eq_bind, Option.bind_eq_some_iff, Option.filter_eq_some_iff,
    Option.pure_def, Option.some.injEq, Bool.not_eq_true', and_assoc]

lemma mem_addressed_iff {x : Address} {p : Pair} : (x, p) ∈ a.addressed e ↔ a.pairAt? e x = some p := by
  rw [pairAt?_eq_some_iff]
  constructor
  · intro h
    obtain ⟨s, hs, h⟩ := List.mem_flatMap.mp h
    obtain ⟨y, hy, h⟩ := List.mem_flatMap.mp h
    obtain ⟨c, hc, h⟩ := List.mem_map.mp h
    obtain ⟨rfl, rfl⟩ := Prod.mk.inj h
    obtain ⟨hplaced, hdeprecated⟩ := List.mem_filter.mp hs
    exact ⟨s.1, List.mem_zipIdx_iff_getElem?.mp hplaced, by simpa using hdeprecated, y.2,
      Statement.mem_slots_iff.mp hy, c.1, List.mem_zipIdx_iff_getElem?.mp hc, rfl⟩
  · obtain ⟨i, slot, j⟩ := x
    rintro ⟨s, hs, hdeprecated, place, hplace, c, hc, rfl⟩
    have hplaced : (s, i) ∈ e.statements.placed := List.mem_zipIdx_iff_getElem?.mpr hs
    apply List.mem_flatMap.mpr
    refine ⟨(s, i), List.mem_filter.mpr ⟨hplaced, by simp [hdeprecated]⟩, ?_⟩
    apply List.mem_flatMap.mpr
    refine ⟨(slot, place), Statement.mem_slots_iff.mpr hplace, ?_⟩
    exact List.mem_map.mpr ⟨(c, j), List.mem_zipIdx_iff_getElem?.mpr hc, rfl⟩

lemma pairwise_addressed (a : Auditor) (e : Entity) :
    (a.addressed e).Pairwise fun x y => x.1.Before y.1 := by
  rw [addressed, List.pairwise_flatMap]
  refine ⟨fun s _ => ?_, ?_⟩
  · rw [List.pairwise_flatMap]
    refine ⟨fun x _ => ?_, ?_⟩
    · rw [List.pairwise_map]
      exact (pairwise_zipIdx _ 0).imp fun h => .constraints _ _ h
    · apply s.1.pairwise_slots.imp
      intro x y h p hp q hq
      obtain ⟨c, -, rfl⟩ := List.mem_map.mp hp
      obtain ⟨d, -, rfl⟩ := List.mem_map.mp hq
      exact .slots _ h _ _
  · apply List.Pairwise.filter
    apply (pairwise_zipIdx _ 0).imp
    intro s t h p hp q hq
    obtain ⟨x, -, hp⟩ := List.mem_flatMap.mp hp
    obtain ⟨y, -, hq⟩ := List.mem_flatMap.mp hq
    obtain ⟨c, -, rfl⟩ := List.mem_map.mp hp
    obtain ⟨d, -, rfl⟩ := List.mem_map.mp hq
    exact .statements h _ _ _ _

/-- A check has one result for each pair of a snak and a constraint of its property, in the order of the
addresses, whatever the rules come to. -/
theorem results_enumerate (a : Auditor) (id : EntityId) :
    match a.services.find? id with
    | none => a.entityResults id none none = []
    | some e => ∃ addresses : List Address, addresses.Pairwise Address.Before ∧ addresses.Nodup ∧
        (∀ x, x ∈ addresses ↔ (a.pairAt? e.withCounts x).isSome) ∧
        List.Forall₂ (fun x r => ∃ context c, a.pairAt? e.withCounts x = some (context, c) ∧
          r.cursor = context.cursor ∧ r.constraint = c ∧ r = a.outcome context c)
            addresses (a.entityResults id none none) := by
  cases hfind : a.services.find? id with
  | none => simp [entityResults, hfind]
  | some e =>
    let l := a.addressed e.withCounts
    have hpairs : a.pairs id = l.map (·.2) := by
      simp only [pairs, hfind]
      exact (a.map_addressed e.withCounts).symm
    have hbefore : (l.map (·.1)).Pairwise Address.Before :=
      List.pairwise_map.mpr (a.pairwise_addressed e.withCounts)
    refine ⟨l.map (·.1), hbefore, Address.nodup_of_before hbefore, fun x => ?_, ?_⟩
    · rw [List.mem_map, Option.isSome_iff_exists]
      constructor
      · rintro ⟨y, hy, rfl⟩
        exact ⟨y.2, mem_addressed_iff.mp hy⟩
      · rintro ⟨p, hp⟩
        exact ⟨(x, p), mem_addressed_iff.mpr hp, rfl⟩
    · rw [entityResults_all, hpairs, List.map_map, List.forall₂_map_left_iff, List.forall₂_map_right_iff,
        List.forall₂_same]
      intro y hy
      exact ⟨y.2.1, y.2.2, mem_addressed_iff.mp hy, rfl, rfl, rfl⟩

end Auditor

end EntityAudit
