import EntityAudit.Decimal.Reading
import EntityAudit.Proofs.Decimal.Rounding

namespace EntityAudit.Decimal

open Float.Model
open Float.Model.UnpackedFloat (Sign Accuracy ExtendedMantissa)

variable {m n k : Nat} {d e : Int}

lemma exists_mul (hm : 0 < m) (hn : 0 < n) (hprecise : 52 ≤ (m * n).log2 ∨ d + e ≤ -1074) :
    ∃ b : Binary, b.IsCanonical ∧ b.RoundsFrom (m * 2 ^ d * (n * 2 ^ e)) ∧
      UnpackedFloat.mul Format.binary64 (.finite .positive m d hm) (.finite .positive n e hn) =
        b.unpacked .positive := by
  obtain ⟨b, hb, hround, heq⟩ := exists_roundWithAccuracy .positive hprecise (.exact (m * n))
  refine ⟨b, hb, ?_, heq⟩
  have hvalue : (m * 2 ^ d * (n * 2 ^ e) : ℚ) = (m * n : Nat) * 2 ^ (d + e) := by
    rw [zpow_add₀ (by norm_num)]
    push_cast
    ring
  rwa [hvalue]

lemma exists_div (hm : 0 < m) (hn : 0 < n) :
    ∃ b : Binary, b.IsCanonical ∧ b.RoundsFrom (m * 2 ^ d / (n * 2 ^ e)) ∧
      UnpackedFloat.div Format.binary64 (.finite .positive m d hm) (.finite .positive n e hn) =
        b.unpacked .positive := by
  obtain ⟨t, ht⟩ : ∃ t : Int, min (d - e) (max (((m.log2 : Int) + 1 + d - (n.log2 + 1 + e)) - 53) (-1074)) = t :=
    ⟨_, rfl⟩
  obtain ⟨k, hk⟩ : ∃ k, (d - e - t).toNat = k := ⟨_, rfl⟩
  have hexponent : d - e = t + k := by omega
  have hdiv : UnpackedFloat.divCore Format.binary64 m d n e =
      (m <<< k / n, t, UnpackedFloat.accuracyOfFraction (m <<< k % n) n) := by
    subst hk ht
    rfl
  -- The quotient has enough digits.
  have hprecise : 52 ≤ (m <<< k / n).log2 ∨ t ≤ -1074 := by
    by_cases hleast : t ≤ -1074
    · exact .inr hleast
    · refine .inl ?_
      have hle : 2 ^ 52 ≤ m <<< k / n := by
        rw [Nat.le_div_iff_mul_le hn, Nat.shiftLeft_eq]
        calc 2 ^ 52 * n ≤ 2 ^ 52 * 2 ^ (n.log2 + 1) := Nat.mul_le_mul_left _ Nat.lt_log2_self.le
          _ = 2 ^ (n.log2 + 53) := by rw [← pow_add]; congr 1; omega
          _ ≤ 2 ^ (m.log2 + k) := Nat.pow_le_pow_right (by decide) (by omega)
          _ = 2 ^ m.log2 * 2 ^ k := pow_add _ _ _
          _ ≤ m * 2 ^ k := Nat.mul_le_mul_right _ (Nat.log2_self_le hm.ne')
      exact (Nat.le_log2 (by omega)).mpr hle
  obtain ⟨b, hb, hround, heq⟩ := exists_roundWithAccuracy .positive hprecise
    (.ofFraction (Nat.mod_lt (m <<< k) hn) (m <<< k / n))
  refine ⟨b, hb, ?_, ?_⟩
  · have hn' : (n : ℚ) ≠ 0 := by exact_mod_cast hn.ne'
    have hquotient : ((m <<< k / n : Nat) : ℚ) + (m <<< k % n : Nat) / n = m * 2 ^ k / n := by
      rw [eq_div_iff hn', add_mul, div_mul_cancel₀ _ hn']
      have := Nat.div_add_mod (m <<< k) n
      rw [Nat.shiftLeft_eq] at this ⊢
      exact_mod_cast (by rw [mul_comm]; exact this)
    have hpow : (2 : ℚ) ^ d = 2 ^ k * 2 ^ t * 2 ^ e := by
      rw [← zpow_natCast, ← zpow_add₀ (by norm_num), ← zpow_add₀ (by norm_num)]
      congr 1
      omega
    have hvalue : (m * 2 ^ d / (n * 2 ^ e) : ℚ) = m * 2 ^ k / n * 2 ^ t := by
      have he : (2 : ℚ) ^ e ≠ 0 := zpow_ne_zero _ (by norm_num)
      rw [hpow]
      field_simp
    rwa [hvalue, ← hquotient]
  · rw [← heq]
    simp only [UnpackedFloat.div, hdiv]
    rfl

lemma Binary.IsCanonical.exists_fields {b : Binary} (hb : b.IsCanonical) (he : b.exponent ≤ 971) :
    ∃ p f : Nat, p < 0x7FF ∧ f < 0x10000000000000 ∧
      b = if p = 0 then ⟨f, -1074, false⟩ else ⟨0x10000000000000 + f, (p : Int) - 1075, f = 0 ∧ 1 < p⟩ := by
  obtain ⟨n, t, near⟩ := b
  obtain ⟨hlt, hge, hnormal, hnear⟩ := hb
  dsimp only at he hlt hge hnormal hnear
  by_cases hsmall : n < 2 ^ 52
  · refine ⟨0, n, by decide, hsmall, ?_⟩
    have hleast : t = -1074 := by omega
    have hfar : near = false := by
      rw [Bool.eq_false_iff, Ne, hnear]
      omega
    rw [if_pos rfl, hleast, hfar]
  · refine ⟨(t + 1075).toNat, n - 2 ^ 52, by omega, by omega, ?_⟩
    rw [if_neg (by omega), Binary.mk.injEq]
    refine ⟨by omega, by omega, ?_⟩
    rw [Bool.eq_iff_iff, hnear, decide_eq_true_iff]
    omega

lemma exists_ofFloat_eq {b : Binary} (hb : b.IsCanonical) (he : b.exponent ≤ 971) :
    ∃ x : Float, x.isFinite = true ∧ Binary.ofFloat x = b ∧ signOf x = .positive := by
  obtain ⟨p, f, hp, hf, rfl⟩ := hb.exists_fields he
  have hbits : (UInt64.ofNat (p * 0x10000000000000 + f)).toNat = p * 0x10000000000000 + f := by
    rw [UInt64.toNat_ofNat', Nat.mod_eq_of_lt (by omega)]
  generalize UInt64.ofNat (p * 0x10000000000000 + f) = bits at hbits
  have hbiased : bits.toNat / 0x10000000000000 % 0x800 = p := by omega
  have hfraction : bits.toNat % 0x10000000000000 = f := by omega
  have hvalid : Format.binary64.Valid bits.toBitVec := by
    refine ⟨fun h => absurd ?_ hp.ne⟩
    rw [← hbiased, ← toNat_unpackExponent, h]
    rfl
  refine ⟨.ofModel ⟨bits, hvalid⟩, isFinite_iff_not_special.mpr ?_, ?_, if_neg ?_⟩
  · change bits.toNat / 0x10000000000000 % 0x800 ≠ 0x7FF
    omega
  · change (if bits.toNat / 0x10000000000000 % 0x800 = 0 then (⟨bits.toNat % 0x10000000000000, _, _⟩ : Binary)
      else ⟨0x10000000000000 + bits.toNat % 0x10000000000000,
        ((bits.toNat / 0x10000000000000 % 0x800 : Nat) : Int) - 1075,
        bits.toNat % 0x10000000000000 = 0 ∧ 1 < bits.toNat / 0x10000000000000 % 0x800⟩) = _
    rw [hbiased, hfraction]
  · change ¬ 9223372036854775808 ≤ bits.toNat
    omega

lemma unpack_pack {b : Binary} (hb : b.IsCanonical) (he : b.exponent ≤ 971) :
    (pack (b.unpacked .positive)).unpack = b.unpacked .positive := by
  obtain ⟨x, hx, rfl, hsign⟩ := exists_ofFloat_eq hb he
  have hunpack := unpack_of_isFinite hx
  rw [hsign] at hunpack
  rw [← hunpack, pack_unpack]

def padded (n : Nat) : Binary where
  significand := n * 2 ^ (52 - n.log2)
  exponent := -(52 - n.log2 : Nat)
  nearBelow := n * 2 ^ (52 - n.log2) = 2 ^ 52

lemma isCanonical_padded (hpos : 0 < n) (hn : n < 2 ^ 53) : (padded n).IsCanonical := by
  have hlog : n.log2 < 53 := (Nat.log2_lt hpos.ne').mpr hn
  have hlow : 2 ^ 52 ≤ n * 2 ^ (52 - n.log2) := by
    calc 2 ^ 52 = 2 ^ n.log2 * 2 ^ (52 - n.log2) := by rw [← pow_add]; congr 1; omega
      _ ≤ n * 2 ^ (52 - n.log2) := Nat.mul_le_mul_right _ (Nat.log2_self_le hpos.ne')
  have hhigh : n * 2 ^ (52 - n.log2) < 2 ^ 53 := by
    calc n * 2 ^ (52 - n.log2) < 2 ^ (n.log2 + 1) * 2 ^ (52 - n.log2) :=
          Nat.mul_lt_mul_of_pos_right Nat.lt_log2_self (Nat.two_pow_pos _)
      _ = 2 ^ 53 := by rw [← pow_add]; congr 1; omega
  refine ⟨hhigh, ?_, fun _ => hlow, ?_⟩
  · simp only [padded]
    omega
  · simp only [padded, decide_eq_true_iff]
    omega

lemma value_padded (n : Nat) : (padded n).value = n := by
  rw [Binary.value, padded]
  push_cast
  rw [zpow_neg, zpow_natCast]
  field_simp

lemma unpack_toFloat (hpos : 0 < n) (hn : n < 2 ^ 53) :
    n.toUInt64.toFloat.toModel.unpack = (padded n).unpacked .positive := by
  have hlog : n.log2 < 53 := (Nat.log2_lt hpos.ne').mpr hn
  have hcast : n.toUInt64.toNat = n := UInt64.toNat_ofNat_of_lt (hn.trans (by decide))
  have hshift : (0 - Format.binary64.targetExponent (totalExponent n 0)).toNat = 52 - n.log2 := by
    rw [targetExponent_eq]
    omega
  have hcanonical := isCanonical_padded hpos hn
  have hwidth : 52 ≤ (n <<< (52 - n.log2)).log2 := by
    have hnormal : 2 ^ 52 ≤ n <<< (52 - n.log2) := by
      rw [Nat.shiftLeft_eq]
      exact hcanonical.normal (by simp only [padded]; omega)
    exact (Nat.le_log2 (by omega)).mpr hnormal
  obtain ⟨b, hb, hround, heq⟩ := exists_roundWithAccuracy (e := 0 - (52 - n.log2 : Nat)) .positive
    (.inl hwidth) (.exact (n <<< (52 - n.log2)))
  have hvalue : ((n <<< (52 - n.log2) : Nat) : ℚ) * 2 ^ (0 - (52 - n.log2 : Nat) : Int) = n := by
    rw [Nat.shiftLeft_eq, zero_sub]
    exact value_padded n
  rw [hvalue] at hround
  have hexact : (padded n).RoundsFrom n := by
    rw [← value_padded]
    exact Binary.roundsFrom_value (Nat.mul_pos hpos (Nat.two_pow_pos _))
  obtain rfl := Binary.eq_of_roundsFrom hb hcanonical hround hexact
  rw [← unpack_pack hb (by simp only [padded]; omega), ← heq]
  change (pack (UnpackedFloat.ofNat Format.binary64 n.toUInt64.toNat)).unpack = _
  rw [hcast]
  simp only [UnpackedFloat.ofNat, UnpackedFloat.ofInt, UnpackedFloat.normalize]
  rw [compare_gt_iff_gt.mpr (by exact_mod_cast hpos)]
  simp only [UnpackedFloat.round, UnpackedFloat.decreaseExponent, Int.toNat_natCast, hshift]

lemma powers_of_ten : ∀ k : Fin 23,
    let x := getElem Float.exactlyRepresentablePowersOfTen k.val (k.isLt.trans_eq rfl)
    x.isFinite = true ∧ ¬ 9223372036854775808 ≤ x.toBits.toNat ∧
      (Binary.ofFloat x).significand * 2 ^ (Binary.ofFloat x).exponent.toNat =
        10 ^ k.val * 2 ^ (-(Binary.ofFloat x).exponent).toNat := by
  decide

lemma exists_power_of_ten (k : Nat) (hk : k < 23) :
    ∃ b : Binary, b.value = 10 ^ k ∧
      (getElem Float.exactlyRepresentablePowersOfTen k (hk.trans_eq rfl)).toModel.unpack = b.unpacked .positive := by
  obtain ⟨hfinite, hsign, hvalue⟩ := powers_of_ten ⟨k, hk⟩
  dsimp only at hfinite hsign hvalue
  generalize getElem Float.exactlyRepresentablePowersOfTen k (hk.trans_eq rfl) = x at hfinite hsign hvalue
  refine ⟨Binary.ofFloat x, ?_, ?_⟩
  · generalize Binary.ofFloat x = b at hvalue
    have hpow : (2 : ℚ) ^ b.exponent * 2 ^ (-b.exponent).toNat = 2 ^ b.exponent.toNat := by
      rw [← zpow_natCast, ← zpow_natCast, ← zpow_add₀ (by norm_num)]
      congr 1
      omega
    have hcast : (b.significand * 2 ^ b.exponent.toNat : ℚ) = 10 ^ k * 2 ^ (-b.exponent).toNat := by
      exact_mod_cast hvalue
    rw [← hpow, ← mul_assoc] at hcast
    exact mul_right_cancel₀ (by positivity) hcast
  · rw [unpack_of_isFinite hfinite, signOf, if_neg hsign]

lemma unpacked_of_pos {b : Binary} (h : 0 < b.significand) (sign : Sign) :
    b.unpacked sign = .finite sign b.significand b.exponent h :=
  dif_neg h.ne'

lemma exists_unpacked_ofScientific (hpos : 0 < n) (hlow : -2048 ≤ e) (hhigh : e ≤ 2048) :
    ∃ b : Binary, b.IsCanonical ∧ b.RoundsFrom (n * 10 ^ e) ∧
      UnpackedFloat.ofScientific Format.binary64 n e = b.unpacked .positive := by
  have hlarge : ¬ e > 2 ^ 11 := by norm_num; omega
  have hsmall : ¬ e < -((2 ^ 11 : Int) + n.log2) := by norm_num; omega
  unfold UnpackedFloat.ofScientific
  rw [dif_neg hpos.ne', if_neg hlarge, if_neg hsmall]
  split
  · rename_i hnonneg
    obtain ⟨k, rfl⟩ := Int.eq_ofNat_of_zero_le hnonneg
    have hprecise : 52 ≤ (n <<< 53 * 10 ^ k).log2 := by
      have hten : 0 < 10 ^ k := Nat.pow_pos (by decide)
      have hle : 2 ^ 53 * 1 ≤ n <<< 53 * 10 ^ k := by
        rw [Nat.shiftLeft_eq, Nat.mul_comm n]
        exact Nat.mul_le_mul (Nat.le_mul_of_pos_right _ hpos) hten
      exact (Nat.le_log2 (by omega)).mpr (by omega)
    obtain ⟨b, hb, hround, heq⟩ := exists_mul (d := -53) (e := 0) (Nat.shiftLeft_pos_iff.mpr hpos)
      (Nat.pow_pos (n := k) (show 0 < 10 by decide)) (.inl hprecise)
    refine ⟨b, hb, ?_, heq⟩
    have hvalue : (n * 10 ^ (k : Int) : ℚ) =
        (n <<< 53 : Nat) * 2 ^ (-53 : Int) * ((10 ^ k : Nat) * 2 ^ (0 : Int)) := by
      rw [Nat.shiftLeft_eq]
      push_cast
      rw [zpow_natCast, zpow_neg]
      norm_num
      ring
    rwa [hvalue]
  · rename_i hneg
    obtain ⟨k, rfl⟩ := Int.exists_eq_neg_ofNat (Int.le_of_lt (Int.not_le.mp hneg))
    obtain ⟨b, hb, hround, heq⟩ := exists_div (d := 0) (e := 0) hpos (Nat.pow_pos (n := k) (show 0 < 10 by decide))
    refine ⟨b, hb, ?_, ?_⟩
    · have hvalue : (n * 10 ^ (-(k : Int)) : ℚ) = n * 2 ^ (0 : Int) / ((10 ^ k : Nat) * 2 ^ (0 : Int)) := by
        rw [zpow_neg, zpow_natCast, zpow_zero, mul_one, mul_one, Nat.cast_pow, Nat.cast_ofNat, div_eq_mul_inv]
      rwa [hvalue]
    · rw [← heq]
      simp only [neg_neg, Int.toNat_natCast]

def signedExponent (negative : Bool) (k : Nat) : Int := if negative then -k else k

lemma exists_ofScientific (negative : Bool) (hpos : 0 < n) (hk : k ≤ 2048) :
    ∃ b : Binary, b.IsCanonical ∧ b.RoundsFrom (n * 10 ^ signedExponent negative k) ∧
      (Float.ofScientific n negative k).toModel = pack (b.unpacked .positive) := by
  unfold Float.ofScientific
  split
  · rename_i h
    -- Few digits and a power of ten that is a number: one multiplication or division.
    obtain ⟨p, hp, hten⟩ := exists_power_of_ten k (by omega)
    have hppos : 0 < p.significand := Nat.pos_of_ne_zero (Binary.value_pos_iff.mp (by rw [hp]; positivity))
    have hnpos : 0 < (padded n).significand := Nat.mul_pos hpos (Nat.two_pow_pos _)
    have hdigits := unpack_toFloat hpos h.1
    rw [unpacked_of_pos hnpos] at hdigits
    rw [unpacked_of_pos hppos] at hten
    cases negative with
    | true =>
      obtain ⟨b, hb, hround, heq⟩ := exists_div (d := (padded n).exponent) (e := p.exponent) hnpos hppos
      refine ⟨b, hb, ?_, ?_⟩
      · have hvalue : (n * 10 ^ signedExponent true k : ℚ) = (padded n).value / p.value := by
          rw [value_padded, hp, signedExponent, if_pos rfl, zpow_neg, zpow_natCast, div_eq_mul_inv]
        rw [hvalue]
        exact hround
      · rw [← heq, ← hten, ← hdigits]
        rfl
    | false =>
      have hprecise : 52 ≤ ((padded n).significand * p.significand).log2 := by
        have hnormal := (isCanonical_padded hpos h.1).normal (by simp only [padded]; omega)
        have hle := Nat.mul_le_mul hnormal hppos
        exact (Nat.le_log2 (by omega)).mpr (by omega)
      obtain ⟨b, hb, hround, heq⟩ := exists_mul (d := (padded n).exponent) (e := p.exponent) hnpos hppos
        (.inl hprecise)
      refine ⟨b, hb, ?_, ?_⟩
      · have hvalue : (n * 10 ^ signedExponent false k : ℚ) = (padded n).value * p.value := by
          rw [value_padded, hp, signedExponent, if_neg Bool.false_ne_true, zpow_natCast]
        rw [hvalue]
        exact hround
      · rw [← heq, ← hten, ← hdigits]
        rfl
  · cases negative with
    | true =>
      obtain ⟨b, hb, hround, heq⟩ := exists_unpacked_ofScientific (e := -(k : Int)) hpos (by omega) (by omega)
      refine ⟨b, hb, hround, ?_⟩
      rw [← heq]
      change pack (UnpackedFloat.ofScientific Format.binary64 n (Int.negOfNat k)) = _
      rw [Int.negOfNat_eq]
      rfl
    | false =>
      obtain ⟨b, hb, hround, heq⟩ := exists_unpacked_ofScientific (e := (k : Int)) hpos (by omega) (by omega)
      exact ⟨b, hb, hround, by rw [← heq]; rfl⟩

variable {x : Float}

lemma eq_of_toModel {y : Float} (h : x.toModel = y.toModel) : x = y := by
  cases x
  cases y
  exact congrArg Float.ofModel h

lemma ofScientific_eq {negative : Bool} (hx : x.isFinite = true) (hsign : signOf x = .positive) (hpos : 0 < n)
    (hk : k ≤ 2048) (h : (Binary.ofFloat x).RoundsFrom (n * 10 ^ signedExponent negative k)) :
    Float.ofScientific n negative k = x := by
  obtain ⟨b, hb, hround, heq⟩ := exists_ofScientific negative hpos hk
  obtain rfl := Binary.eq_of_roundsFrom hb (Binary.isCanonical_ofFloat x) hround h
  apply eq_of_toModel
  rw [heq, ← hsign, ← unpack_of_isFinite hx, pack_unpack]

lemma nearest_eq_of_roundsFrom (hx : x.isFinite = true) (hsign : signOf x = .positive) (hpos : 0 < n)
    (hlow : -2000 ≤ e) (hhigh : e ≤ 2000) (h : (Binary.ofFloat x).RoundsFrom (n * 10 ^ e)) :
    nearest n e = x := by
  have hclamp : clampExponent n e = e := by
    unfold clampExponent
    dsimp only
    omega
  unfold nearest
  rw [if_neg hpos.ne', hclamp]
  dsimp only
  split
  · rename_i hnonneg
    obtain ⟨k, rfl⟩ := Int.eq_ofNat_of_zero_le hnonneg
    refine ofScientific_eq hx hsign (Nat.mul_pos hpos (Nat.pow_pos (by decide))) (by decide) ?_
    have hvalue : ((n * Nat.pow 10 (k : Int).toNat : Nat) * 10 ^ signedExponent false 0 : ℚ) =
        n * 10 ^ (k : Int) := by
      rw [Int.toNat_natCast, Nat.pow_eq, signedExponent, if_neg Bool.false_ne_true, Nat.cast_zero, zpow_zero,
        zpow_natCast]
      push_cast
      ring
    rwa [hvalue]
  · rename_i hneg
    refine ofScientific_eq hx hsign hpos (by omega) ?_
    have hexponent : signedExponent true e.natAbs = e := by
      rw [signedExponent, if_pos rfl]
      omega
    rwa [hexponent]

end EntityAudit.Decimal
