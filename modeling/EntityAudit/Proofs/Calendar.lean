import EntityAudit.Moment
import Mathlib.Algebra.Order.Ring.Int
import Mathlib.Data.List.Basic

namespace EntityAudit

open Calendar

namespace Date

lemma yearOfDay_spec (n : Int) :
    daysBeforeYear (yearOfDay n) ≤ n ∧ n < daysBeforeYear (yearOfDay n + 1) := by
  have hlow : daysBeforeYear (n * 400 / 146097 + 1 - 1) ≤ n := by
    simp only [daysBeforeYear]
    omega
  have hhigh : n < daysBeforeYear (n * 400 / 146097 + 1 + 1 + 1) := by
    simp only [daysBeforeYear]
    omega
  simp only [yearOfDay]
  split
  · rename_i h
    rw [Int.sub_add_cancel]
    exact ⟨hlow, h⟩
  · rename_i h
    split
    · rename_i h'
      exact ⟨h', hhigh⟩
    · rename_i h'
      exact ⟨Int.not_lt.mp h, Int.not_le.mp h'⟩

lemma sum_monthLengths (year : Int) :
    ((monthLengths year).sum : Int) = daysBeforeYear (year + 1) - daysBeforeYear year := by
  have hleap : isLeap year = true ↔ year % 4 = 0 ∧ (year % 100 ≠ 0 ∨ year % 400 = 0) := by
    simp [isLeap]
  simp only [monthLengths, daysBeforeYear]
  by_cases h : isLeap year = true
  · rw [if_pos h]
    rw [hleap] at h
    simp only [List.sum_cons, List.sum_nil]
    omega
  · rw [if_neg h]
    rw [hleap] at h
    simp only [List.sum_cons, List.sum_nil]
    omega

lemma monthOfDay_spec {lengths : List Nat} (month : Nat) {n : Nat} (h : n < lengths.sum) :
    ∃ i, i < lengths.length ∧ (lengths.take i).sum ≤ n ∧
      n < (lengths.take i).sum + lengths.getD i 0 ∧
      monthOfDay month lengths n = (month + i, n - (lengths.take i).sum + 1) := by
  induction lengths generalizing month n with
  | nil => simp at h
  | cons length rest ih =>
    rw [monthOfDay]
    by_cases hn : n < length
    · refine ⟨0, ?_⟩
      simp [hn]
    · rw [List.sum_cons] at h
      have hrest : n - length < rest.sum := by omega
      obtain ⟨i, hi, hle, hlt, heq⟩ := ih (month + 1) hrest
      refine ⟨i + 1, ?_⟩
      rw [if_neg hn, heq, List.take_succ_cons, List.sum_cons, List.length_cons]
      refine ⟨by omega, by omega, ?_, ?_⟩
      · simp only [List.getD_cons_succ]
        omega
      · rw [Prod.mk.injEq]
        omega

lemma ofDayNumber_spec (n : Int) :
    let d := ofDayNumber n
    d.dayNumber = n ∧ 1 ≤ d.month ∧ d.month ≤ 12 ∧ 1 ≤ d.day ∧
      d.day ≤ (monthLengths d.year).getD (d.month - 1) 0 := by
  obtain ⟨hlow, hhigh⟩ := yearOfDay_spec (n + epochDay)
  have hsum := sum_monthLengths (yearOfDay (n + epochDay))
  have hday : (n + epochDay - daysBeforeYear (yearOfDay (n + epochDay))).toNat <
      (monthLengths (yearOfDay (n + epochDay))).sum := by omega
  obtain ⟨i, hi, hle, hlt, heq⟩ := monthOfDay_spec 1 hday
  have hlength : (monthLengths (yearOfDay (n + epochDay))).length = 12 := rfl
  simp only [ofDayNumber, heq, dayNumber, daysBeforeMonth, ← List.sum_eq_foldl,
    Nat.add_sub_cancel_left]
  omega

@[simp] lemma dayNumber_ofDayNumber (n : Int) : (ofDayNumber n).dayNumber = n :=
  (ofDayNumber_spec n).1

lemma isValid_ofDayNumber {n : Int} (hl : minYear ≤ (ofDayNumber n).year)
    (hh : (ofDayNumber n).year ≤ maxYear) : (ofDayNumber n).isValid = true := by
  obtain ⟨-, hm, hm', hd, hd'⟩ := ofDayNumber_spec n
  simp only [isValid, Bool.and_eq_true, decide_eq_true_eq]
  exact ⟨⟨⟨⟨⟨hl, hh⟩, hm⟩, hm'⟩, hd⟩, hd'⟩

lemma getD_monthLengths_le (year : Int) (i : Nat) : (monthLengths year).getD i 0 ≤ 31 := by
  rw [List.getD_eq_getElem?_getD]
  cases h : (monthLengths year)[i]? with
  | none => simp
  | some length =>
    have hmem := List.mem_of_getElem? h
    unfold monthLengths at hmem
    rw [Option.getD_some]
    split at hmem
    · simp at hmem
      omega
    · simp at hmem
      omega

end Date

namespace Clock

lemma seconds_ofSeconds (n : Nat) : (ofSeconds n).seconds = n := by
  simp only [ofSeconds, seconds]
  omega

lemma ofSeconds_lt {n : Nat} (h : n < 86400) :
    (ofSeconds n).hour < 24 ∧ (ofSeconds n).minute < 60 ∧ (ofSeconds n).second < 60 := by
  simp only [ofSeconds]
  omega

end Clock

namespace Moment

lemma ofDateClock_date_clock (m : Moment) : ofDateClock m.date m.clock = ⟨m.seconds, 0⟩ := by
  simp only [ofDateClock, date, clock, Date.dayNumber_ofDayNumber, Clock.seconds_ofSeconds]
  congr 1
  omega

lemma date_bounds (m : Moment) :
    1 ≤ m.date.month ∧ m.date.month ≤ 12 ∧ 1 ≤ m.date.day ∧ m.date.day ≤ 31 := by
  obtain ⟨-, hm, hm', hd, hd'⟩ := Date.ofDayNumber_spec (m.seconds / 86400)
  exact ⟨hm, hm', hd, Nat.le_trans hd' (Date.getD_monthLengths_le _ _)⟩

lemma clock_bounds (m : Moment) :
    m.clock.hour < 24 ∧ m.clock.minute < 60 ∧ m.clock.second < 60 :=
  Clock.ofSeconds_lt (by omega)

end Moment

end EntityAudit
