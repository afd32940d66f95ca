import EntityAudit.Proofs.Decimal.Unpacked

namespace EntityAudit.Decimal

open Float.Model
open Float.Model.UnpackedFloat (Sign Accuracy ExtendedMantissa)

structure Represents (m : ExtendedMantissa) (v : ℚ) : Prop where
  mantissa_le : m.mantissa ≤ v
  lt_succ : v < m.mantissa + 1
  roundBit_iff : m.roundBit = true ↔ m.mantissa + 1 / 2 ≤ v
  stickyBit_iff : m.stickyBit = true ↔ v ≠ m.mantissa ∧ v ≠ m.mantissa + 1 / 2

variable {m : ExtendedMantissa} {v : ℚ} {n k : Nat} {a : Accuracy}

lemma mantissa_ofMantissaAndAccuracy (n : Nat) (a : Accuracy) :
    (ExtendedMantissa.ofMantissaAndAccuracy n a).mantissa = n := by
  cases a with
  | exact => rfl
  | inexact o =>
    cases o
    all_goals rfl

namespace Represents

lemma exact (n : Nat) : Represents (.ofMantissaAndAccuracy n .exact) n where
  mantissa_le := le_rfl
  lt_succ := lt_add_one _
  roundBit_iff := by
    refine iff_of_false Bool.false_ne_true (not_le_of_gt ?_)
    exact lt_add_of_pos_right _ (by norm_num)
  stickyBit_iff := iff_of_false Bool.false_ne_true fun h => h.1 rfl

lemma ofFraction {part whole : Nat} (h : part < whole) (n : Nat) :
    Represents (.ofMantissaAndAccuracy n (UnpackedFloat.accuracyOfFraction part whole))
      (n + part / whole) := by
  have hwhole : (0 : ℚ) < whole := by exact_mod_cast (Nat.zero_le part).trans_lt h
  have hlt : (part / whole : ℚ) < 1 := (div_lt_one hwhole).mpr (by exact_mod_cast h)
  have hhalf : (1 / 2 : ℚ) ≤ part / whole ↔ whole ≤ 2 * part := by
    rw [le_div_iff₀ hwhole, ← Nat.cast_le (α := ℚ)]
    push_cast
    constructor
    · intro h
      linarith
    · intro h
      linarith
  have hmiddle : (part / whole : ℚ) = 1 / 2 ↔ 2 * part = whole := by
    rw [div_eq_iff hwhole.ne', ← Nat.cast_inj (R := ℚ)]
    push_cast
    constructor
    · intro h
      linarith
    · intro h
      linarith
  have hbits : (ExtendedMantissa.ofMantissaAndAccuracy n (UnpackedFloat.accuracyOfFraction part whole)) =
      ⟨n, decide (whole ≤ 2 * part), decide (part ≠ 0 ∧ 2 * part ≠ whole)⟩ := by
    unfold UnpackedFloat.accuracyOfFraction
    by_cases hzero : part = 0
    · subst hzero
      simp [ExtendedMantissa.ofMantissaAndAccuracy, h.ne']
    · rcases lt_trichotomy (2 * part) whole with hlow | heven | hhigh
      · simp [ExtendedMantissa.ofMantissaAndAccuracy, hzero, compare_lt_iff_lt.mpr hlow, hlow.ne, hlow]
      · simp [ExtendedMantissa.ofMantissaAndAccuracy, hzero, heven]
      · simp [ExtendedMantissa.ofMantissaAndAccuracy, hzero, compare_gt_iff_gt.mpr hhigh, hhigh.ne', hhigh.le]
  have hzero : (part / whole : ℚ) = 0 ↔ part = 0 := by
    rw [div_eq_zero_iff, or_iff_left hwhole.ne', Nat.cast_eq_zero]
  rw [hbits]
  refine ⟨?_, ?_, ?_, ?_⟩
  · exact le_add_of_nonneg_right (by positivity)
  · exact add_lt_add_right hlt _
  · exact decide_eq_true_iff.trans (hhalf.symm.trans (add_le_add_iff_left _).symm)
  · exact decide_eq_true_iff.trans (and_congr
      (hzero.not.symm.trans add_eq_left.not.symm) (hmiddle.not.symm.trans (add_right_inj _).not.symm))

lemma shiftRightOne (h : Represents m v) : Represents m.shiftRightOne (v / 2) := by
  obtain ⟨n, first, second⟩ := m
  obtain ⟨hle, hlt, hfirst, hsecond⟩ := h
  dsimp only at hle hlt hfirst hsecond
  have hdigit : n % 2 = 0 ∧ (n : ℚ) = 2 * (n / 2 : Nat) ∨ n % 2 = 1 ∧ (n : ℚ) = 2 * (n / 2 : Nat) + 1 := by
    have hvalue : (n : ℚ) = 2 * (n / 2 : Nat) + (n % 2 : Nat) := by exact_mod_cast (Nat.div_add_mod n 2).symm
    refine (Nat.mod_two_eq_zero_or_one n).imp (fun h => ⟨h, ?_⟩) fun h => ⟨h, ?_⟩
    · rw [h, Nat.cast_zero, add_zero] at hvalue
      exact hvalue
    · rw [h, Nat.cast_one] at hvalue
      exact hvalue
  -- The two bits together tell whether there is a rest at all.
  have hrest : (first || second) = true ↔ v ≠ n := by
    rw [Bool.or_eq_true, hfirst, hsecond]
    constructor
    · rintro (hhalf | ⟨hne, -⟩)
      · linarith
      · exact hne
    · intro hne
      by_cases hhalf : n + 1 / 2 ≤ v
      · exact .inl hhalf
      · exact .inr ⟨hne, by linarith⟩
  refine ⟨?_, ?_, ?_, hrest.trans ?_⟩
  all_goals
    dsimp only [ExtendedMantissa.shiftRightOne]
    obtain ⟨hbit, hvalue⟩ | ⟨hbit, hvalue⟩ := hdigit
  · linarith
  · linarith
  · linarith
  · linarith
  · rw [hbit]
    exact iff_of_false Bool.false_ne_true (by linarith)
  · rw [hbit]
    exact iff_of_true rfl (by linarith)
  · exact ⟨fun hne => ⟨fun h => hne (by linarith), fun h => by linarith⟩, fun h heq => h.1 (by linarith)⟩
  · exact ⟨fun hne => ⟨fun h => by linarith, fun h => hne (by linarith)⟩, fun h heq => h.2 (by linarith)⟩

lemma shiftRight (h : Represents m v) (k : Nat) : Represents (m >>> k) (v / 2 ^ k) := by
  change Represents (k.repeat ExtendedMantissa.shiftRightOne m) _
  induction k with
  | zero => simpa [Nat.repeat] using h
  | succ k ih =>
    rw [Nat.repeat, pow_succ, ← div_div]
    exact ih.shiftRightOne

end Represents

structure Nearest (n : Nat) (v : ℚ) : Prop where
  above : n - 1 / 2 < v ∨ n % 2 = 0 ∧ n - 1 / 2 = v
  below : v < n + 1 / 2 ∨ n % 2 = 0 ∧ v = n + 1 / 2

lemma roundedMantissa_eq (m : ExtendedMantissa) :
    m.roundedMantissa = m.mantissa ∨ m.roundedMantissa = m.mantissa + 1 := by
  obtain ⟨n, first, second⟩ := m
  cases first
  all_goals cases second
  · exact .inl rfl
  · exact .inl rfl
  · change n + n % 2 = n ∨ n + n % 2 = n + 1
    omega
  · exact .inr rfl

lemma Represents.nearest (h : Represents m v) : Nearest m.roundedMantissa v := by
  obtain ⟨n, first, second⟩ := m
  obtain ⟨hle, hlt, hfirst, hsecond⟩ := h
  dsimp only at hle hlt hfirst hsecond
  cases first with
  | false =>
    have hlow : v < n + 1 / 2 := not_le.mp (hfirst.not.mp Bool.false_ne_true)
    have hround : (ExtendedMantissa.mk n false second).roundedMantissa = n := by
      cases second
      · rfl
      · rfl
    rw [hround]
    exact ⟨.inl (by linarith), .inl hlow⟩
  | true =>
    have hhigh : n + 1 / 2 ≤ v := hfirst.mp rfl
    cases second with
    | false =>
      have hmiddle : v = n + 1 / 2 := by
        by_contra hne
        exact Bool.false_ne_true (hsecond.mpr ⟨by linarith, hne⟩)
      change Nearest (n + n % 2) v
      rcases Nat.mod_two_eq_zero_or_one n with heven | hodd
      · rw [heven]
        exact ⟨.inl (by push_cast; linarith), .inr ⟨heven, by push_cast; linarith⟩⟩
      · rw [hodd]
        exact ⟨.inr ⟨by omega, by push_cast; linarith⟩, .inl (by push_cast; linarith)⟩
    | true =>
      obtain ⟨-, hmiddle⟩ := hsecond.mp rfl
      change Nearest (n + 1) v
      refine ⟨.inl ?_, .inl ?_⟩
      · push_cast
        linarith [lt_of_le_of_ne hhigh hmiddle.symm]
      · push_cast
        linarith

/-! ## Rounding to 53 digits -/

variable {e t : Int} {sign : Sign}

lemma targetExponent_eq (n : Nat) (e : Int) :
    Format.binary64.targetExponent (totalExponent n e) = max (n.log2 - 52 + e) (-1074) := by
  change max ((n.log2 : Int) + 1 + e - 53) (-1074) = _
  congr 1
  omega

lemma mantissa_shiftRight (m : ExtendedMantissa) (k : Nat) : (m >>> k).mantissa = m.mantissa / 2 ^ k := by
  change (k.repeat ExtendedMantissa.shiftRightOne m).mantissa = _
  induction k with
  | zero => simp [Nat.repeat]
  | succ k ih =>
    rw [Nat.repeat, pow_succ, ← Nat.div_div_eq_div_mul, ← ih]
    rfl

lemma div_two_pow_lt {n k : Nat} (h : n.log2 ≤ 52 + k) : n / 2 ^ k < 2 ^ 53 := by
  rw [Nat.div_lt_iff_lt_mul (Nat.two_pow_pos k), ← pow_add]
  exact Nat.lt_log2_self.trans_le (Nat.pow_le_pow_right (by decide) (by omega))

lemma le_div_two_pow {n k : Nat} (h : n.log2 = 52 + k) : 2 ^ 52 ≤ n / 2 ^ k := by
  have hne : n ≠ 0 := by
    rintro rfl
    rw [Nat.log2_zero] at h
    omega
  rw [Nat.le_div_iff_mul_le (Nat.two_pow_pos k), ← pow_add, ← h]
  exact Nat.log2_self_le hne

lemma shiftToTargetExponent_of_lt (hn : n < 2 ^ 53) (ht : -1074 ≤ t) :
    UnpackedFloat.shiftToTargetExponent Format.binary64 n t .exact = (⟨n, false, false⟩, t) := by
  have hlog : n.log2 ≤ 52 := by
    by_cases hzero : n = 0
    · rw [hzero, Nat.log2_zero]
      omega
    · have := (Nat.log2_lt hzero).mpr hn
      omega
  have hshift : (Format.binary64.targetExponent (totalExponent n t) - t).toNat = 0 := by
    rw [targetExponent_eq]
    omega
  simp only [UnpackedFloat.shiftToTargetExponent, UnpackedFloat.shiftToExponent, hshift, Nat.cast_zero, add_zero]
  rfl

lemma shiftToTargetExponent_of_carry (ht : -1074 ≤ t) :
    UnpackedFloat.shiftToTargetExponent Format.binary64 (2 ^ 53) t .exact =
      (⟨2 ^ 52, false, false⟩, t + 1) := by
  have hshift : (Format.binary64.targetExponent (totalExponent (2 ^ 53) t) - t).toNat = 1 := by
    rw [targetExponent_eq, Nat.log2_two_pow]
    omega
  simp only [UnpackedFloat.shiftToTargetExponent, UnpackedFloat.shiftToExponent, hshift, Nat.cast_one]
  rfl

def roundedBinary (n : Nat) (t : Int) : Binary :=
  if n < 2 ^ 53 then ⟨n, t, n = 2 ^ 52 ∧ -1074 < t⟩ else ⟨2 ^ 52, t + 1, true⟩

lemma isCanonical_roundedBinary (ht : -1074 ≤ t) (hnormal : -1074 < t → 2 ^ 52 ≤ n) :
    (roundedBinary n t).IsCanonical := by
  unfold roundedBinary
  split
  · rename_i hlt
    exact ⟨hlt, ht, hnormal, decide_eq_true_iff⟩
  · refine ⟨show 2 ^ 52 < 2 ^ 53 by decide, ?_, fun _ => le_rfl, iff_of_true rfl ⟨rfl, ?_⟩⟩
    · dsimp only
      omega
    · dsimp only
      omega

namespace Binary

variable {b : Binary}

lemma roundsFrom_scaled (above : (b.low : ℚ) < 4 * v ∨ b.significand % 2 = 0 ∧ (b.low : ℚ) = 4 * v)
    (below : 4 * v < b.high ∨ b.significand % 2 = 0 ∧ 4 * v = b.high) :
    b.RoundsFrom (v * 2 ^ b.exponent) := by
  have hunit : v * 2 ^ b.exponent = 4 * v * b.quarter := by
    rw [quarter, zpow_sub₀ (by norm_num)]
    norm_num
    ring
  rw [hunit]
  refine ⟨?_, ?_⟩
  · exact above.imp (fun h => mul_lt_mul_of_pos_right h b.quarter_pos) fun h => ⟨h.1, by rw [h.2]⟩
  · exact below.imp (fun h => mul_lt_mul_of_pos_right h b.quarter_pos) fun h => ⟨h.1, by rw [h.2]⟩

lemma roundsFrom_of_nearest (hnear : b.nearBelow = true → b.significand ≤ v) (hnonneg : 0 ≤ v)
    (h : Nearest b.significand v) : b.RoundsFrom (v * 2 ^ b.exponent) := by
  obtain ⟨n, t, near⟩ := b
  dsimp only at hnear h
  refine roundsFrom_scaled ?_ ?_
  · by_cases hzero : n = 0
    · have hlow : low ⟨n, t, near⟩ = 0 := by
        unfold low
        split
        · dsimp only
          omega
        · dsimp only
          omega
      rw [hlow, Nat.cast_zero]
      rcases hnonneg.lt_or_eq with hpos | rfl
      · exact .inl (by linarith)
      · exact .inr ⟨by dsimp only; omega, by norm_num⟩
    · cases near with
      | true =>
        have hlow : ((low ⟨n, t, true⟩ : Nat) : ℚ) = 4 * n - 1 := by
          rw [low, if_pos rfl, Nat.cast_sub (by dsimp only; omega)]
          push_cast
          ring
        rw [hlow]
        exact .inl (by linarith [hnear rfl])
      | false =>
        have hlow : ((low ⟨n, t, false⟩ : Nat) : ℚ) = 4 * n - 2 := by
          rw [low, if_neg Bool.false_ne_true, Nat.cast_sub (by dsimp only; omega)]
          push_cast
          ring
        rw [hlow]
        exact h.above.imp (fun h => by linarith) fun h => ⟨h.1, by linarith⟩
  · unfold high
    push_cast
    exact h.below.imp (fun h => by linarith) fun h => ⟨h.1, by linarith⟩

lemma roundsFrom_carry {t : Int} (h : Nearest (2 ^ 53) v) (hlt : v < 2 ^ 53) :
    (⟨2 ^ 52, t + 1, true⟩ : Binary).RoundsFrom (v * 2 ^ t) := by
  have hscale : v * 2 ^ t = v / 2 * 2 ^ (⟨2 ^ 52, t + 1, true⟩ : Binary).exponent := by
    dsimp only
    rw [zpow_add_one₀ (by norm_num)]
    ring
  have hlow : ((low ⟨2 ^ 52, t + 1, true⟩ : Nat) : ℚ) = 2 * (2 ^ 53 : Nat) - 1 := by
    rw [low, if_pos rfl]
    norm_num
  have hhigh : ((high ⟨2 ^ 52, t + 1, true⟩ : Nat) : ℚ) = 2 * 2 ^ 53 + 2 := by
    rw [high]
    norm_num
  rw [hscale]
  refine roundsFrom_scaled ?_ (.inl ?_)
  · rw [hlow]
    exact h.above.imp (fun h => by linarith) fun h => ⟨by norm_num, by linarith⟩
  · rw [hhigh]
    linarith

end Binary

lemma roundsFrom_roundedBinary (hle : n ≤ 2 ^ 53) (hn : Nearest n v) (hnonneg : 0 ≤ v)
    (hleast : -1074 < t → 2 ^ 52 ≤ v) (hmost : v < 2 ^ 53) :
    (roundedBinary n t).RoundsFrom (v * 2 ^ t) := by
  unfold roundedBinary
  split
  · refine Binary.roundsFrom_of_nearest (fun hnear => ?_) hnonneg hn
    obtain ⟨hmin, hnormal⟩ := of_decide_eq_true hnear
    rw [hmin]
    exact_mod_cast hleast hnormal
  · obtain rfl : n = 2 ^ 53 := by omega
    exact Binary.roundsFrom_carry hn hmost

lemma roundWithAccuracy_eq (sign : Sign) (hprecise : 52 ≤ n.log2 ∨ e ≤ -1074)
    (ht : t = max (n.log2 - 52 + e) (-1074))
    (hk : (ExtendedMantissa.ofMantissaAndAccuracy n a >>> (t - e).toNat).roundedMantissa = k)
    (hle : k ≤ 2 ^ 53) :
    UnpackedFloat.roundWithAccuracy Format.binary64 sign n e a = (roundedBinary k t).unpacked sign := by
  have hexponent : e + ((t - e).toNat : Int) = t := by omega
  have hfirst : UnpackedFloat.shiftToTargetExponent Format.binary64 n e a =
      (ExtendedMantissa.ofMantissaAndAccuracy n a >>> (t - e).toNat, t) := by
    simp only [UnpackedFloat.shiftToTargetExponent, UnpackedFloat.shiftToExponent, targetExponent_eq, ← ht,
      hexponent]
  unfold UnpackedFloat.roundWithAccuracy
  simp only [hfirst, hk]
  by_cases hlt : k < 2 ^ 53
  · simp only [shiftToTargetExponent_of_lt hlt (show -1074 ≤ t by omega), roundedBinary, if_pos hlt]
    rfl
  · obtain rfl : k = 2 ^ 53 := by omega
    simp only [shiftToTargetExponent_of_carry (show -1074 ≤ t by omega), roundedBinary, if_neg hlt]
    rfl

lemma exists_roundWithAccuracy (sign : Sign) (hprecise : 52 ≤ n.log2 ∨ e ≤ -1074)
    (hv : Represents (.ofMantissaAndAccuracy n a) v) :
    ∃ b : Binary, b.IsCanonical ∧ b.RoundsFrom (v * 2 ^ e) ∧
      UnpackedFloat.roundWithAccuracy Format.binary64 sign n e a = b.unpacked sign := by
  obtain ⟨t, ht⟩ : ∃ t : Int, t = max (n.log2 - 52 + e) (-1074) := ⟨_, rfl⟩
  obtain ⟨k, hk⟩ : ∃ k, (t - e).toNat = k := ⟨_, rfl⟩
  have hexponent : t = e + k := by omega
  obtain ⟨m, hm⟩ : ∃ m, ExtendedMantissa.ofMantissaAndAccuracy n a >>> k = m := ⟨_, rfl⟩
  have hrepresents : Represents m (v / 2 ^ k) := hm ▸ hv.shiftRight k
  have hmantissa : m.mantissa = n / 2 ^ k := by
    rw [← hm, mantissa_shiftRight, mantissa_ofMantissaAndAccuracy]
  have hlt : m.mantissa < 2 ^ 53 := hmantissa ▸ div_two_pow_lt (by omega)
  have hnormal : -1074 < t → 2 ^ 52 ≤ m.mantissa := fun h => hmantissa ▸ le_div_two_pow (by omega)
  have hround := roundedMantissa_eq m
  have hscale : v * 2 ^ e = v / 2 ^ k * 2 ^ t := by
    rw [hexponent, zpow_add₀ (by norm_num), zpow_natCast]
    field_simp
  refine ⟨roundedBinary m.roundedMantissa t, ?_, ?_, ?_⟩
  · exact isCanonical_roundedBinary (by omega) fun h => by have := hnormal h; omega
  · rw [hscale]
    refine roundsFrom_roundedBinary (by omega) hrepresents.nearest ?_ ?_ ?_
    · exact (Nat.cast_nonneg _).trans hrepresents.mantissa_le
    · exact fun h => le_trans (by exact_mod_cast hnormal h) hrepresents.mantissa_le
    · exact hrepresents.lt_succ.trans_le (by exact_mod_cast hlt)
  · exact roundWithAccuracy_eq sign hprecise ht (by rw [hk, hm]) (by omega)

end EntityAudit.Decimal
