import EntityAudit.Proofs.Decimal.Unpacked

namespace EntityAudit.Decimal

open Float.Model
open Float.Model.UnpackedFloat (Sign)

def unsignZero (x : Float) : Float := if (x == 0) = true then 0 else x

variable {x y : Float}

lemma eq_of_unpack_eq (h : x.toModel.unpack = y.toModel.unpack) : x = y := by
  have hmodel : x.toModel = y.toModel := by rw [← pack_unpack x, ← pack_unpack y, h]
  cases x
  cases y
  exact congrArg Float.ofModel hmodel

lemma beq_iff_compare : (x == y) = true ↔ x.toModel.unpack.compare y.toModel.unpack = some .eq := by
  change (x.toModel.unpack.compare y.toModel.unpack == some .eq) = true ↔ _
  exact beq_iff_eq

lemma Binary.compare_unpacked_eq_iff {a b : Binary} {s t : Sign} :
    (a.unpacked s).compare (b.unpacked t) = some .eq ↔
      a.significand = 0 ∧ b.significand = 0 ∨ a.unpacked s = b.unpacked t := by
  by_cases ha : a.significand = 0
  · by_cases hb : b.significand = 0
    · simp [unpacked, ha, hb, UnpackedFloat.compare]
    · cases t <;> simp [unpacked, ha, hb, UnpackedFloat.compare]
  · by_cases hb : b.significand = 0
    · cases s <;> simp [unpacked, ha, hb, UnpackedFloat.compare]
    · cases s <;> cases t <;>
        simp [unpacked, ha, hb, UnpackedFloat.compare, and_comm]

lemma beq_iff_of_isFinite (hx : x.isFinite = true) (hy : y.isFinite = true) :
    (x == y) = true ↔ (Binary.ofFloat x).significand = 0 ∧ (Binary.ofFloat y).significand = 0 ∨ x = y := by
  rw [beq_iff_compare, unpack_of_isFinite hx, unpack_of_isFinite hy, Binary.compare_unpacked_eq_iff,
    ← unpack_of_isFinite hx, ← unpack_of_isFinite hy]
  exact or_congr_right ⟨eq_of_unpack_eq, fun h => h ▸ rfl⟩

lemma beq_zero_iff (hx : x.isFinite = true) : (x == 0) = true ↔ (Binary.ofFloat x).significand = 0 := by
  have hzero : (Binary.ofFloat 0).significand = 0 := rfl
  rw [beq_iff_of_isFinite hx rfl, and_iff_left hzero]
  exact or_iff_left_of_imp fun h => h ▸ hzero

lemma beq_iff_unsignZero (hx : x.isFinite = true) (hy : y.isFinite = true) :
    (x == y) = true ↔ unsignZero x = unsignZero y := by
  have hzero : ((0 : Float) == 0) = true := rfl
  rw [beq_iff_of_isFinite hx hy, ← beq_zero_iff hx, ← beq_zero_iff hy]
  unfold unsignZero
  constructor
  · rintro (⟨hx0, hy0⟩ | rfl)
    · rw [if_pos hx0, if_pos hy0]
    · rfl
  · intro h
    split_ifs at h with hx0 hy0 hy0
    · exact .inl ⟨hx0, hy0⟩
    · subst h
      exact absurd hzero hy0
    · subst h
      exact absurd hzero hx0
    · exact .inr h

end EntityAudit.Decimal
