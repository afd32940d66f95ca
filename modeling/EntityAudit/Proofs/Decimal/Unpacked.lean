import EntityAudit.Proofs.Decimal.Shortest
import Mathlib

/-!
Numbers are calculated with as a sign and an absolute value, and compared by them. Here the absolute value
is the one that `Binary.ofFloat` takes from the bits of a number. The lemmas about these bits are in no module of
Mathlib, so the whole of it is imported.
-/

namespace EntityAudit.Decimal

open Float.Model
open Float.Model.UnpackedFloat (Sign)

def signOf (x : Float) : Sign :=
  if 9223372036854775808 ≤ x.toBits.toNat then .negative else .positive

def Binary.unpacked (b : Binary) (sign : Sign) : UnpackedFloat :=
  if h : b.significand = 0 then .zero sign
  else .finite sign b.significand b.exponent (Nat.pos_of_ne_zero h)

variable {x y : Float}

/-! ## From the bits -/

lemma toNat_unpackMantissa (bits : UInt64) :
    (@UnpackedFloat.unpackMantissa .binary64 bits.toBitVec).toNat =
      bits.toNat % 0x10000000000000 := by
  rw [UnpackedFloat.unpackMantissa_def, BitVec.extractLsb'_toNat, Nat.shiftRight_zero]
  rfl

lemma toNat_unpackExponent (bits : UInt64) :
    (@UnpackedFloat.unpackExponent .binary64 bits.toBitVec).toNat =
      bits.toNat / 0x10000000000000 % 0x800 := by
  rw [UnpackedFloat.unpackExponent_def, BitVec.extractLsb'_toNat, Nat.shiftRight_eq_div_pow]
  rfl

lemma ofBitVec_unpackSign (x : Float) :
    Sign.ofBitVec (@UnpackedFloat.unpackSign .binary64 x.toBits.toBitVec) = signOf x := by
  have hlt := x.toBits.toNat_lt
  have hzero : @UnpackedFloat.unpackSign .binary64 x.toBits.toBitVec = 0#1 ↔
      ¬ 9223372036854775808 ≤ x.toBits.toNat := by
    rw [UnpackedFloat.unpackSign_def, ← BitVec.toNat_inj, BitVec.extractLsb'_toNat, Nat.shiftRight_eq_div_pow]
    change x.toBits.toNat / 0x8000000000000000 % 2 = 0 ↔ _
    omega
  unfold Sign.ofBitVec signOf
  simp only [hzero, ite_not]

lemma unpackMantissa_eq_zero_iff (x : Float) :
    @UnpackedFloat.unpackMantissa .binary64 x.toBits.toBitVec = 0#_ ↔
      x.toBits.toNat % 0x10000000000000 = 0 := by
  rw [← BitVec.toNat_inj, toNat_unpackMantissa]
  rfl

lemma unpack_of_special (h : x.toBits.toNat / 0x10000000000000 % 0x800 = 0x7FF) :
    x.toModel.unpack =
      if x.toBits.toNat % 0x10000000000000 = 0 then .infinity (signOf x) else .notANumber := by
  have hspecial : @UnpackedFloat.unpackExponent .binary64 x.toBits.toBitVec = -1#_ := by
    rw [← BitVec.toNat_inj, toNat_unpackExponent, h]
    rfl
  have hzero := unpackMantissa_eq_zero_iff x
  change UnpackedFloat.unpack Format.binary64 x.toBits.toBitVec = _
  unfold UnpackedFloat.unpack
  simp only [hspecial, hzero, ofBitVec_unpackSign, if_true]

lemma unpack_of_not_special (h : x.toBits.toNat / 0x10000000000000 % 0x800 ≠ 0x7FF) :
    x.toModel.unpack = (Binary.ofFloat x).unpacked (signOf x) := by
  have hspecial : @UnpackedFloat.unpackExponent .binary64 x.toBits.toBitVec ≠ -1#_ := by
    rw [Ne, ← BitVec.toNat_inj, toNat_unpackExponent]
    exact h
  have hleast : @UnpackedFloat.unpackExponent .binary64 x.toBits.toBitVec = 0#_ ↔
      x.toBits.toNat / 0x10000000000000 % 0x800 = 0 := by
    rw [← BitVec.toNat_inj, toNat_unpackExponent]
    rfl
  have hzero := unpackMantissa_eq_zero_iff x
  change UnpackedFloat.unpack Format.binary64 x.toBits.toBitVec = _
  unfold UnpackedFloat.unpack Binary.ofFloat Binary.unpacked
  simp only [hspecial, hleast, hzero, ofBitVec_unpackSign, if_false]
  split
  · rename_i hexponent
    split
    · rfl
    · simp only [toNat_unpackMantissa, toNat_unpackExponent, hexponent]
      rfl
  · -- The leading bit, which is not among those of the mantissa.
    have hfraction : x.toBits.toNat % 0x10000000000000 < 2 ^ 52 := Nat.mod_lt _ (by decide)
    have hleading : (1#1 ++ @UnpackedFloat.unpackMantissa .binary64 x.toBits.toBitVec).toNat =
        0x10000000000000 + x.toBits.toNat % 0x10000000000000 := by
      rw [BitVec.toNat_append, toNat_unpackMantissa, ← Nat.shiftLeft_add_eq_or_of_lt hfraction]
      rfl
    rw [dif_neg (by simp)]
    simp only [hleading, toNat_unpackExponent]
    rfl

lemma isFinite_unpacked (b : Binary) (sign : Sign) : (b.unpacked sign).isFinite = true := by
  unfold Binary.unpacked
  split
  · rfl
  · rfl

lemma isFinite_iff_not_special :
    x.isFinite = true ↔ x.toBits.toNat / 0x10000000000000 % 0x800 ≠ 0x7FF := by
  change x.toModel.unpack.isFinite = true ↔ _
  by_cases h : x.toBits.toNat / 0x10000000000000 % 0x800 = 0x7FF
  · refine iff_of_false ?_ (not_not_intro h)
    rw [unpack_of_special h]
    split
    · exact Bool.false_ne_true
    · exact Bool.false_ne_true
  · refine iff_of_true ?_ h
    rw [unpack_of_not_special h]
    exact isFinite_unpacked _ _

lemma unpack_of_isFinite (h : x.isFinite = true) :
    x.toModel.unpack = (Binary.ofFloat x).unpacked (signOf x) :=
  unpack_of_not_special (isFinite_iff_not_special.mp h)

lemma pack_unpack (x : Float) : pack x.toModel.unpack = x.toModel := by
  exact congrArg Float.toModel (Float.ofBits_toBits x)

/-! ## Order -/

lemma Binary.value_lt_value {a b : Binary} (ha : a.IsCanonical) (hb : b.IsCanonical)
    (h : a.exponent < b.exponent ∨ a.exponent = b.exponent ∧ a.significand < b.significand) :
    a.value < b.value := by
  have hlt := ha.significand_lt
  obtain ⟨k, hk⟩ : ∃ k : Nat, b.exponent = a.exponent + k := by
    obtain ⟨k, hk⟩ := Int.le.dest (a := a.exponent) (b := b.exponent) (by omega)
    exact ⟨k, hk.symm⟩
  have hnat : a.significand < b.significand * 2 ^ k := by
    cases k with
    | zero => omega
    | succ k =>
      have hge := ha.exponent_ge
      have hnormal := hb.normal (by omega)
      have hpow : b.significand * 2 ≤ b.significand * 2 ^ (k + 1) :=
        Nat.mul_le_mul_left _ (Nat.le_self_pow (Nat.succ_ne_zero k) 2)
      omega
  have hscale : b.value = (b.significand * 2 ^ k : Nat) * 2 ^ a.exponent := by
    rw [value, hk, zpow_add₀ (by norm_num), zpow_natCast]
    push_cast
    ring
  rw [hscale, value]
  exact mul_lt_mul_of_pos_right (by exact_mod_cast hnat) (zpow_pos (by norm_num) _)

lemma Binary.value_pos_iff {b : Binary} : 0 < b.value ↔ b.significand ≠ 0 := by
  have hpow : (0 : ℚ) < 2 ^ b.exponent := zpow_pos (by norm_num) _
  rw [value, mul_pos_iff_of_pos_right hpow, Nat.cast_pos, Nat.pos_iff_ne_zero]

lemma Binary.value_eq_zero {b : Binary} (h : b.significand = 0) : b.value = 0 := by
  rw [value, h, Nat.cast_zero, zero_mul]

lemma Binary.compare_unpacked {a b : Binary} (ha : a.IsCanonical) (hb : b.IsCanonical) :
    (a.unpacked .positive).compare (b.unpacked .positive) = some (compare a.value b.value) := by
  by_cases hza : a.significand = 0
  · by_cases hzb : b.significand = 0
    · rw [value_eq_zero hza, value_eq_zero hzb, compare_eq_iff_eq.mpr rfl]
      simp only [unpacked, hza, hzb, dite_true, UnpackedFloat.compare]
    · rw [value_eq_zero hza, compare_lt_iff_lt.mpr (value_pos_iff.mpr hzb)]
      simp only [unpacked, hza, hzb, dite_true, dite_false, UnpackedFloat.compare]
  · by_cases hzb : b.significand = 0
    · rw [value_eq_zero hzb, compare_gt_iff_gt.mpr (value_pos_iff.mpr hza)]
      simp only [unpacked, hza, hzb, dite_true, dite_false, UnpackedFloat.compare]
    · simp only [unpacked, hza, hzb, dite_false, UnpackedFloat.compare, Option.some.injEq]
      rcases lt_trichotomy a.exponent b.exponent with hlt | heq | hgt
      · rw [compare_lt_iff_lt.mpr hlt, compare_lt_iff_lt.mpr (value_lt_value ha hb (.inl hlt))]
        rfl
      · rw [compare_eq_iff_eq.mpr heq]
        rcases lt_trichotomy a.significand b.significand with hlt | heq' | hgt
        · rw [compare_lt_iff_lt.mpr hlt, compare_lt_iff_lt.mpr (value_lt_value ha hb (.inr ⟨heq, hlt⟩))]
          rfl
        · rw [compare_eq_iff_eq.mpr heq', compare_eq_iff_eq.mpr (by rw [value, value, heq, heq'])]
          rfl
        · rw [compare_gt_iff_gt.mpr hgt,
            compare_gt_iff_gt.mpr (value_lt_value hb ha (.inr ⟨heq.symm, hgt⟩))]
          rfl
      · rw [compare_gt_iff_gt.mpr hgt, compare_gt_iff_gt.mpr (value_lt_value hb ha (.inl hgt))]
        rfl

lemma significand_of_special (h : x.toBits.toNat / 0x10000000000000 % 0x800 = 0x7FF) :
    (Binary.ofFloat x).significand = 0x10000000000000 + x.toBits.toNat % 0x10000000000000 ∧
      (Binary.ofFloat x).exponent = 972 := by
  unfold Binary.ofFloat
  simp only [h]
  exact ⟨rfl, rfl⟩

lemma exponent_lt_of_not_special (h : x.toBits.toNat / 0x10000000000000 % 0x800 ≠ 0x7FF) :
    (Binary.ofFloat x).exponent < 972 := by
  unfold Binary.ofFloat
  dsimp only
  split
  · dsimp only
    omega
  · dsimp only
    omega

lemma lt_iff_compare : x < y ↔ x.toModel.unpack.compare y.toModel.unpack = some .lt := by
  change decide (x.toModel < y.toModel) = true ↔ _
  rw [decide_eq_true_iff]
  change (x.toModel.unpack.compare y.toModel.unpack == some .lt) = true ↔ _
  exact beq_iff_eq

lemma le_iff_compare :
    x ≤ y ↔ (x.toModel.unpack.compare y.toModel.unpack).any Ordering.isLE = true := by
  change decide (x.toModel ≤ y.toModel) = true ↔ _
  rw [decide_eq_true_iff]
  rfl

lemma unpack_of_pos (hx : 0 < x) :
    x.toModel.unpack = .infinity .positive ∧ (Binary.ofFloat x).significand = 2 ^ 52 ∧
        (Binary.ofFloat x).exponent = 972 ∨
      x.toModel.unpack = (Binary.ofFloat x).unpacked .positive ∧ (Binary.ofFloat x).exponent < 972 := by
  have hcompare := lt_iff_compare.mp hx
  have hzero : (0 : Float).toModel.unpack = .zero .positive := rfl
  rw [hzero] at hcompare
  by_cases hspecial : x.toBits.toNat / 0x10000000000000 % 0x800 = 0x7FF
  · refine .inl ?_
    obtain ⟨hsignificand, hexponent⟩ := significand_of_special hspecial
    rw [unpack_of_special hspecial] at hcompare ⊢
    split at hcompare
    · rename_i hfraction
      rw [if_pos hfraction]
      refine ⟨?_, hsignificand.trans (by rw [hfraction]; rfl), hexponent⟩
      cases hsign : signOf x with
      | positive => rfl
      | negative =>
        rw [hsign] at hcompare
        cases hcompare
    · cases hcompare
  · refine .inr ⟨?_, exponent_lt_of_not_special hspecial⟩
    rw [unpack_of_not_special hspecial] at hcompare ⊢
    cases hsign : signOf x with
    | positive => rfl
    | negative =>
      rw [hsign] at hcompare
      unfold Binary.unpacked at hcompare
      split at hcompare
      · cases hcompare
      · cases hcompare

lemma compare_of_pos (hx : 0 < x) (hy : 0 < y) :
    x.toModel.unpack.compare y.toModel.unpack =
      some (compare (Binary.ofFloat x).value (Binary.ofFloat y).value) := by
  have hcx := Binary.isCanonical_ofFloat x
  have hcy := Binary.isCanonical_ofFloat y
  rcases unpack_of_pos hx with ⟨hux, hsx, hex⟩ | ⟨hux, hex⟩
  · rcases unpack_of_pos hy with ⟨huy, hsy, hey⟩ | ⟨huy, hey⟩
    · rw [hux, huy, Binary.value, Binary.value, hsx, hsy, hex, hey, compare_eq_iff_eq.mpr rfl]
      rfl
    · rw [hux, huy, compare_gt_iff_gt.mpr (Binary.value_lt_value hcy hcx (.inl (by omega)))]
      unfold Binary.unpacked
      split
      · rfl
      · rfl
  · rcases unpack_of_pos hy with ⟨huy, hsy, hey⟩ | ⟨huy, hey⟩
    · rw [hux, huy, compare_lt_iff_lt.mpr (Binary.value_lt_value hcx hcy (.inl (by omega)))]
      unfold Binary.unpacked
      split
      · rfl
      · rfl
    · rw [hux, huy, Binary.compare_unpacked hcx hcy]

lemma le_iff_of_pos (hx : 0 < x) (hy : 0 < y) :
    x ≤ y ↔ (Binary.ofFloat x).value ≤ (Binary.ofFloat y).value := by
  rw [le_iff_compare, compare_of_pos hx hy, Option.any_some, Ordering.isLE_iff_ne_gt]
  exact compare_le_iff_le

end EntityAudit.Decimal
