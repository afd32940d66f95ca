import EntityAudit.Proofs.Decimal.Equality
import EntityAudit.Proofs.Encoding.Statement

/-!
Equality of snaks, which compares numbers as numbers. Snaks with finite numbers are equal exactly if they are the same
but for the signs of zeros (`Snak.beq_iff_unsignZeros`).
-/

namespace EntityAudit

open Decimal

namespace Quantity

def unsignZeros (q : Quantity) : Quantity where
  amount := unsignZero q.amount
  lowerBound := q.lowerBound.map unsignZero
  upperBound := q.upperBound.map unsignZero
  unit := q.unit

end Quantity

namespace GlobeCoordinate

def unsignZeros (c : GlobeCoordinate) : GlobeCoordinate where
  latitude := unsignZero c.latitude
  longitude := unsignZero c.longitude
  precision := c.precision.map unsignZero

end GlobeCoordinate

def Value.unsignZeros : Value → Value
  | .quantity q => .quantity q.unsignZeros
  | .globe c => .globe c.unsignZeros
  | v => v

def Snak.unsignZeros : Snak → Snak
  | .value p v => .value p v.unsignZeros
  | s => s

lemma beq_iff_map_unsignZero {x y : Option Float} (hx : ∀ a ∈ x, a.isFinite = true)
    (hy : ∀ a ∈ y, a.isFinite = true) : (x == y) = true ↔ x.map unsignZero = y.map unsignZero := by
  cases x with
  | none => cases y <;> simp
  | some a =>
    cases y with
    | none => simp
    | some b => simpa using beq_iff_unsignZero (hx a rfl) (hy b rfl)

lemma Quantity.beq_iff_unsignZeros {q r : Quantity} (hq : ∀ x ∈ q.numbers, x.isFinite = true)
    (hr : ∀ x ∈ r.numbers, x.isFinite = true) : (q == r) = true ↔ q.unsignZeros = r.unsignZeros := by
  simp only [numbers, List.forall_mem_cons, List.forall_mem_append, Option.mem_toList] at hq hr
  obtain ⟨hamount, hlower, hupper⟩ := hq
  obtain ⟨hamount', hlower', hupper'⟩ := hr
  change (_ == _ && (_ == _ && (_ == _ && _ == _))) = true ↔ _
  rw [Bool.and_eq_true, Bool.and_eq_true, Bool.and_eq_true, beq_iff_unsignZero hamount hamount',
    beq_iff_map_unsignZero hlower hlower', beq_iff_map_unsignZero hupper hupper', beq_iff_eq, unsignZeros,
    unsignZeros, mk.injEq]

lemma GlobeCoordinate.beq_iff_unsignZeros {c d : GlobeCoordinate} (hc : ∀ x ∈ c.numbers, x.isFinite = true)
    (hd : ∀ x ∈ d.numbers, x.isFinite = true) : (c == d) = true ↔ c.unsignZeros = d.unsignZeros := by
  simp only [numbers, List.forall_mem_cons, Option.mem_toList] at hc hd
  obtain ⟨hlatitude, hlongitude, hprecision⟩ := hc
  obtain ⟨hlatitude', hlongitude', hprecision'⟩ := hd
  change (_ == _ && (_ == _ && _ == _)) = true ↔ _
  rw [Bool.and_eq_true, Bool.and_eq_true, beq_iff_unsignZero hlatitude hlatitude',
    beq_iff_unsignZero hlongitude hlongitude', beq_iff_map_unsignZero hprecision hprecision', unsignZeros,
    unsignZeros, mk.injEq]

lemma Value.beq_iff_unsignZeros {v w : Value} (hv : ∀ x ∈ v.numbers, x.isFinite = true)
    (hw : ∀ x ∈ w.numbers, x.isFinite = true) : (v == w) = true ↔ v.unsignZeros = w.unsignZeros := by
  -- Values of different kinds differ either way.
  cases v with
  | string s =>
    cases w with
    | string t => exact (beq_iff_eq (a := s)).trans ⟨congrArg string, string.inj⟩
    | _ => exact iff_of_false Bool.false_ne_true Value.noConfusion
  | entity id =>
    cases w with
    | entity id' => exact (beq_iff_eq (a := id)).trans ⟨congrArg entity, entity.inj⟩
    | _ => exact iff_of_false Bool.false_ne_true Value.noConfusion
  | quantity q =>
    cases w with
    | quantity q' => exact (Quantity.beq_iff_unsignZeros hv hw).trans ⟨congrArg quantity, quantity.inj⟩
    | _ => exact iff_of_false Bool.false_ne_true Value.noConfusion
  | time t =>
    cases w with
    | time t' => exact (beq_iff_eq (a := t)).trans ⟨congrArg time, time.inj⟩
    | _ => exact iff_of_false Bool.false_ne_true Value.noConfusion
  | monolingual t =>
    cases w with
    | monolingual t' => exact (beq_iff_eq (a := t)).trans ⟨congrArg monolingual, monolingual.inj⟩
    | _ => exact iff_of_false Bool.false_ne_true Value.noConfusion
  | globe c =>
    cases w with
    | globe c' => exact (GlobeCoordinate.beq_iff_unsignZeros hv hw).trans ⟨congrArg globe, globe.inj⟩
    | _ => exact iff_of_false Bool.false_ne_true Value.noConfusion

lemma Snak.beq_iff_unsignZeros {s t : Snak} (hs : ∀ x ∈ s.numbers, x.isFinite = true)
    (ht : ∀ x ∈ t.numbers, x.isFinite = true) : (s == t) = true ↔ s.unsignZeros = t.unsignZeros := by
  cases s with
  | value p v =>
    cases t with
    | value q w =>
      have hv : ∀ x ∈ v.numbers, x.isFinite = true := by simpa [numbers, value?] using hs
      have hw : ∀ x ∈ w.numbers, x.isFinite = true := by simpa [numbers, value?] using ht
      change (p == q && v == w) = true ↔ _
      rw [Bool.and_eq_true, beq_iff_eq, Value.beq_iff_unsignZeros hv hw, unsignZeros, unsignZeros, value.injEq]
    | _ => exact iff_of_false Bool.false_ne_true Snak.noConfusion
  | someValue p =>
    cases t with
    | someValue q => exact (beq_iff_eq (a := p)).trans ⟨congrArg someValue, someValue.inj⟩
    | _ => exact iff_of_false Bool.false_ne_true Snak.noConfusion
  | noValue p =>
    cases t with
    | noValue q => exact (beq_iff_eq (a := p)).trans ⟨congrArg noValue, noValue.inj⟩
    | _ => exact iff_of_false Bool.false_ne_true Snak.noConfusion

end EntityAudit
