import EntityAudit.Decimal.Shortest
import Mathlib.Data.Rat.Defs
import Mathlib.Algebra.Order.Field.Rat
import Mathlib.Algebra.Order.Ring.Cast
import Mathlib.Data.Rat.Cast.Order
import Mathlib.Tactic.FieldSimp
import Mathlib.Tactic.Linarith
import Mathlib.Tactic.NormNum
import Mathlib.Tactic.Positivity
import Mathlib.Tactic.Ring

/-!
The digits chosen for a number lie among the reals that round to it (`roundsFrom_shortest`), and no real
rounds to two numbers (`eq_of_roundsFrom`). So the digits identify the number.
-/

namespace EntityAudit.Decimal

lemma compareScaled_eq (a : Nat) (i : Int) (b : Nat) (j : Int) :
    compareScaled a i b j = compare ((a : ℚ) * 10 ^ i) ((b : ℚ) * 2 ^ j) := by
  -- Both sides times the powers that the exponents leave in the denominators.
  have hscale : (0 : ℚ) < 10 ^ (-i).toNat * 2 ^ (-j).toNat := by positivity
  have hten : (10 : ℚ) ^ i * 10 ^ (-i).toNat = 10 ^ i.toNat := by
    rw [← zpow_natCast, ← zpow_natCast, ← zpow_add₀ (by norm_num)]
    congr 1
    omega
  have htwo : (2 : ℚ) ^ j * 2 ^ (-j).toNat = 2 ^ j.toNat := by
    rw [← zpow_natCast, ← zpow_natCast, ← zpow_add₀ (by norm_num)]
    congr 1
    omega
  have hleft : ((a * Nat.pow 10 i.toNat * Nat.pow 2 (-j).toNat : Nat) : ℚ) =
      a * 10 ^ i * (10 ^ (-i).toNat * 2 ^ (-j).toNat) := by
    calc ((a * Nat.pow 10 i.toNat * Nat.pow 2 (-j).toNat : Nat) : ℚ)
        = a * 10 ^ i.toNat * 2 ^ (-j).toNat := by simp only [Nat.pow_eq]; push_cast; rfl
      _ = _ := by rw [← hten]; ring
  have hright : ((b * Nat.pow 2 j.toNat * Nat.pow 10 (-i).toNat : Nat) : ℚ) =
      b * 2 ^ j * (10 ^ (-i).toNat * 2 ^ (-j).toNat) := by
    calc ((b * Nat.pow 2 j.toNat * Nat.pow 10 (-i).toNat : Nat) : ℚ)
        = b * 2 ^ j.toNat * 10 ^ (-i).toNat := by simp only [Nat.pow_eq]; push_cast; rfl
      _ = _ := by rw [← htwo]; ring
  have hmono : StrictMono fun q : ℚ => q * (10 ^ (-i).toNat * 2 ^ (-j).toNat) :=
    fun p q h => mul_lt_mul_of_pos_right h hscale
  rw [compareScaled, ← cmp_eq_compare, ← cmp_eq_compare, ← hmono.cmp_map_eq, ← hleft, ← hright,
    (Nat.strictMono_cast (α := ℚ)).cmp_map_eq]

def Digits.value (d : Digits) : ℚ := d.digits * 10 ^ d.exponent

namespace Binary

def value (x : Binary) : ℚ := x.significand * 2 ^ x.exponent

def low (x : Binary) : Nat := if x.nearBelow then 4 * x.significand - 1 else 4 * x.significand - 2

def high (x : Binary) : Nat := 4 * x.significand + 2

def quarter (x : Binary) : ℚ := 2 ^ (x.exponent - 2)

structure RoundsFrom (x : Binary) (v : ℚ) : Prop where
  above : x.low * x.quarter < v ∨ x.significand % 2 = 0 ∧ x.low * x.quarter = v
  below : v < x.high * x.quarter ∨ x.significand % 2 = 0 ∧ v = x.high * x.quarter

structure IsCanonical (x : Binary) : Prop where
  significand_lt : x.significand < 2 ^ 53
  exponent_ge : -1074 ≤ x.exponent
  normal : -1074 < x.exponent → 2 ^ 52 ≤ x.significand
  nearBelow_iff : x.nearBelow = true ↔ x.significand = 2 ^ 52 ∧ -1074 < x.exponent

variable {x y : Binary} {d : Digits} {v : ℚ} {e : Int}

lemma quarter_pos (x : Binary) : 0 < x.quarter := zpow_pos (by norm_num) _

lemma value_eq (x : Binary) : x.value = (4 * x.significand : Nat) * x.quarter := by
  have hquarter : (2 : ℚ) ^ x.exponent = 4 * 2 ^ (x.exponent - 2) := by
    rw [zpow_sub₀ (by norm_num)]
    norm_num
    ring
  rw [value, quarter, hquarter]
  push_cast
  ring

lemma identifiedBy_iff : x.identifiedBy d = true ↔ x.RoundsFrom d.value := by
  have hlow : compareScaled d.digits d.exponent x.low (x.exponent - 2) =
      compare d.value (x.low * x.quarter) := compareScaled_eq _ _ _ _
  have hhigh : compareScaled d.digits d.exponent x.high (x.exponent - 2) =
      compare d.value (x.high * x.quarter) := compareScaled_eq _ _ _ _
  have hdef : x.identifiedBy d =
      ((compareScaled d.digits d.exponent x.low (x.exponent - 2) == .gt ||
        x.significand % 2 == 0 && compareScaled d.digits d.exponent x.low (x.exponent - 2) == .eq) &&
      (compareScaled d.digits d.exponent x.high (x.exponent - 2) == .lt ||
        x.significand % 2 == 0 && compareScaled d.digits d.exponent x.high (x.exponent - 2) == .eq)) := rfl
  rw [hdef, hlow, hhigh]
  simp only [Bool.and_eq_true, Bool.or_eq_true, beq_iff_eq, compare_gt_iff_gt, compare_lt_iff_lt,
    compare_eq_iff_eq]
  constructor
  · rintro ⟨habove, hbelow⟩
    exact ⟨habove.imp_right fun h => ⟨h.1, h.2.symm⟩, hbelow⟩
  · rintro ⟨habove, hbelow⟩
    exact ⟨habove.imp_right fun h => ⟨h.1, h.2.symm⟩, hbelow⟩

lemma roundsFrom_value (h : 0 < x.significand) : x.RoundsFrom x.value := by
  have hquarter := x.quarter_pos
  have hlow : x.low < 4 * x.significand := by
    unfold low
    split
    · omega
    · omega
  have hhigh : 4 * x.significand < x.high := by
    unfold high
    omega
  rw [value_eq]
  refine ⟨.inl ?_, .inl ?_⟩
  · exact mul_lt_mul_of_pos_right (by exact_mod_cast hlow) hquarter
  · exact mul_lt_mul_of_pos_right (by exact_mod_cast hhigh) hquarter

lemma roundsFrom_zero (hx : x.IsCanonical) (h : x.significand = 0) : x.RoundsFrom 0 := by
  have hnear : x.nearBelow = false := by
    rw [Bool.eq_false_iff, Ne, hx.nearBelow_iff, h]
    omega
  have hlow : x.low = 0 := by simp [low, hnear, h]
  refine ⟨.inr ⟨by rw [h], by rw [hlow, Nat.cast_zero, zero_mul]⟩, .inl ?_⟩
  have hhigh : (0 : ℚ) < x.high := by exact_mod_cast Nat.succ_pos _
  exact mul_pos hhigh x.quarter_pos

lemma identifiedBy_of_onGrid? (h : x.onGrid? e = some d) : x.identifiedBy d = true := by
  unfold onGrid? at h
  dsimp only at h
  split at h
  · obtain rfl := Option.some.inj h
    assumption
  · obtain rfl := Option.some.inj h
    assumption
  · cases h
  · split at h
    · obtain rfl := Option.some.inj h
      assumption
    · obtain rfl := Option.some.inj h
      assumption
    · obtain rfl := Option.some.inj h
      split
      · assumption
      · assumption

end Binary

lemma Digits.value_strip (d : Digits) : d.strip.value = d.value := by
  induction d using Digits.strip.induct with
  | case1 d h ih =>
    rw [strip, dif_pos h, ih]
    have hdigits : (d.digits : ℚ) = (d.digits / 10 : Nat) * 10 := by
      exact_mod_cast (Nat.div_mul_cancel (Nat.dvd_of_mod_eq_zero h.2)).symm
    rw [value, value, hdigits, zpow_add_one₀ (by norm_num)]
    ring
  | case2 d h => rw [strip, dif_neg h]

namespace Binary

variable {x y : Binary} {v : ℚ}

lemma roundsFrom_shortest (hx : x.IsCanonical) : x.RoundsFrom x.shortest.value := by
  unfold shortest
  split
  · rename_i hzero
    have hvalue : (⟨0, 0⟩ : Digits).value = 0 := by simp [Digits.value]
    rw [hvalue]
    exact roundsFrom_zero hx hzero
  · rename_i hpos
    dsimp only
    rw [Digits.value_strip]
    cases hfound : (List.range 17).findSome? fun (n : Nat) => x.onGrid? (x.magnitude - (n + 1 : Nat)) with
    | some d =>
      obtain ⟨n, -, hn⟩ := List.exists_of_findSome?_eq_some hfound
      exact identifiedBy_iff.mp (identifiedBy_of_onGrid? hn)
    | none =>
      have hexact : (⟨x.significand * Nat.pow 2 x.exponent.toNat * Nat.pow 5 (-x.exponent).toNat,
          min x.exponent 0⟩ : Digits).value = x.value := by
        rw [Digits.value, value]
        simp only [Nat.pow_eq]
        push_cast
        rcases le_total 0 x.exponent with hle | hle
        · obtain ⟨n, hn⟩ := Int.eq_ofNat_of_zero_le hle
          simp [hn]
        · obtain ⟨n, hn⟩ := Int.exists_eq_neg_ofNat hle
          have hten : (10 : ℚ) ^ n = 5 ^ n * 2 ^ n := by rw [← mul_pow]; norm_num
          simp [hn, hten]
          field_simp
      rw [Option.getD_none, hexact]
      exact roundsFrom_value (Nat.pos_of_ne_zero hpos)

lemma high_le_low (hx : x.IsCanonical) (hy : y.IsCanonical)
    (h : x.exponent < y.exponent ∨ x.exponent = y.exponent ∧ x.significand < y.significand) :
    x.high * x.quarter < y.low * y.quarter ∨
      x.high * x.quarter = y.low * y.quarter ∧ (x.significand % 2 = 1 ∨ y.significand % 2 = 1) := by
  obtain ⟨k, hk⟩ : ∃ k : Nat, y.exponent = x.exponent + k := by
    obtain ⟨k, hk⟩ := Int.le.dest (a := x.exponent) (b := y.exponent) (by omega)
    exact ⟨k, hk.symm⟩
  have hscale : (y.low : ℚ) * y.quarter = (y.low * 2 ^ k : Nat) * x.quarter := by
    have hquarter : y.quarter = 2 ^ k * x.quarter := by
      rw [quarter, quarter, hk, ← zpow_natCast, ← zpow_add₀ (by norm_num)]
      congr 1
      omega
    rw [hquarter]
    push_cast
    ring
  have hends : x.high < y.low * 2 ^ k ∨
      x.high = y.low * 2 ^ k ∧ (x.significand % 2 = 1 ∨ y.significand % 2 = 1) := by
    have hxlt := hx.significand_lt
    cases k with
    | zero =>
      unfold high low
      split
      · omega
      · omega
    | succ k =>
      -- A number with a greater exponent has its leading bit, so its lower end is past all of a smaller one.
      have hge := hx.exponent_ge
      have hnormal := hy.normal (by omega)
      have hlow : 2 ^ 54 - 1 ≤ y.low ∧ (y.low = 2 ^ 54 - 1 → y.significand = 2 ^ 52) := by
        unfold low
        split
        · have hmin := hy.nearBelow_iff.mp ‹_›
          omega
        · have hmin := hy.nearBelow_iff.not.mp ‹_›
          omega
      have hpow : y.low * 2 ≤ y.low * 2 ^ (k + 1) :=
        Nat.mul_le_mul_left _ (Nat.le_self_pow (Nat.succ_ne_zero k) 2)
      unfold high
      omega
  rw [hscale]
  rcases hends with hlt | ⟨heq, hodd⟩
  · exact .inl (mul_lt_mul_of_pos_right (by exact_mod_cast hlt) x.quarter_pos)
  · exact .inr ⟨by rw [heq], hodd⟩

lemma not_roundsFrom_of_lt (hx : x.IsCanonical) (hy : y.IsCanonical)
    (h : x.exponent < y.exponent ∨ x.exponent = y.exponent ∧ x.significand < y.significand)
    (hv : x.RoundsFrom v) : ¬ y.RoundsFrom v := by
  intro hw
  have hends := high_le_low hx hy h
  have hle : x.high * x.quarter ≤ y.low * y.quarter := hends.elim le_of_lt fun h => h.1.le
  rcases hv.below with hlt | ⟨heven, heq⟩
  · rcases hw.above with hlt' | ⟨-, heq'⟩
    · linarith
    · linarith
  · rcases hw.above with hlt' | ⟨heven', heq'⟩
    · linarith
    · rcases hends with hends | ⟨-, hodd⟩
      · linarith
      · omega

theorem eq_of_roundsFrom (hx : x.IsCanonical) (hy : y.IsCanonical) (hv : x.RoundsFrom v)
    (hw : y.RoundsFrom v) : x = y := by
  have hexponent : x.exponent = y.exponent := by
    rcases lt_trichotomy x.exponent y.exponent with hlt | heq | hgt
    · exact absurd hw (not_roundsFrom_of_lt hx hy (.inl hlt) hv)
    · exact heq
    · exact absurd hv (not_roundsFrom_of_lt hy hx (.inl hgt) hw)
  have hsignificand : x.significand = y.significand := by
    rcases lt_trichotomy x.significand y.significand with hlt | heq | hgt
    · exact absurd hw (not_roundsFrom_of_lt hx hy (.inr ⟨hexponent, hlt⟩) hv)
    · exact heq
    · exact absurd hv (not_roundsFrom_of_lt hy hx (.inr ⟨hexponent.symm, hgt⟩) hw)
  have hnear : x.nearBelow = y.nearBelow := by
    rw [Bool.eq_iff_iff, hx.nearBelow_iff, hy.nearBelow_iff, hexponent, hsignificand]
  cases x
  cases y
  simp only [mk.injEq]
  exact ⟨hsignificand, hexponent, hnear⟩

lemma isCanonical_ofFloat (x : Float) : (ofFloat x).IsCanonical := by
  unfold ofFloat
  dsimp only
  split
  · refine ⟨?_, ?_, ?_, ?_⟩
    · simp only
      omega
    · simp
    · simp
    · simp
  · refine ⟨?_, ?_, ?_, ?_⟩
    · simp only
      omega
    · simp only
      omega
    · simp only
      omega
    · simp only [decide_eq_true_eq]
      omega

lemma toBits_eq_of_ofFloat {x y : Float} (h : ofFloat x = ofFloat y)
    (hsign : 9223372036854775808 ≤ x.toBits.toNat ↔ 9223372036854775808 ≤ y.toBits.toNat) :
    x.toBits = y.toBits := by
  have hx := x.toBits.toNat_lt
  have hy := y.toBits.toNat_lt
  apply UInt64.toNat_inj.mp
  unfold ofFloat at h
  dsimp only at h
  split at h
  · split at h
    · simp only [mk.injEq] at h
      omega
    · simp only [mk.injEq] at h
      omega
  · split at h
    · simp only [mk.injEq] at h
      omega
    · simp only [mk.injEq] at h
      omega

end Binary

end EntityAudit.Decimal
