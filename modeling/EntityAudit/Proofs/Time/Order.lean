import EntityAudit.Proofs.Time

/-!
Timestamps and the calendar. Days are numbered in their order, and a year of mean length begins within two days
of the year of the calendar, so timestamps follow the order of the fields except where a day that the calendar
has not is put in front of days that it should follow (`timestamp_le_iff_not_overshoots`).
-/

namespace EntityAudit

open Calendar

namespace Significand

lemma round_of_natAbs_lt {bits : Nat} {i : Int} (h : i.natAbs < 2 ^ bits) : round bits i = i := by
  have hexact : ∀ n : Nat, n < 2 ^ bits → n ≠ 0 → roundNat bits n = n :=
    fun n hn hne => roundNat_of_log2_lt ((Nat.log2_lt hne).mpr hn)
  cases i with
  | ofNat n =>
    by_cases hn : n = 0
    · subst hn
      simp [round, roundNat]
    · rw [round, hexact n h hn, Int.ofNat_eq_natCast]
  | negSucc n =>
    rw [round, hexact (n + 1) h (Nat.succ_ne_zero n), Int.negSucc_eq]
    rfl

end Significand

namespace Calendar

lemma daysBeforeYear_add_le {y z : Int} (h : y < z) : daysBeforeYear y + 365 ≤ daysBeforeYear z := by
  simp only [daysBeforeYear]
  omega

lemma sum_take_add_getD_le (lengths : List Nat) {i j : Nat} (h : i < j) :
    (lengths.take i).sum + lengths.getD i 0 ≤ (lengths.take j).sum := by
  induction lengths generalizing i j with
  | nil => simp
  | cons length rest ih =>
    cases j with
    | zero => omega
    | succ j =>
      cases i with
      | zero => simp
      | succ i =>
        have hrest := ih (Nat.lt_of_succ_lt_succ h)
        simp only [List.take_succ_cons, List.sum_cons, List.getD_cons_succ]
        omega

lemma daysBeforeMonth_add_le (year : Int) {i j : Nat} (hi : 1 ≤ i) (h : i < j) :
    daysBeforeMonth year i + (monthLengths year).getD (i - 1) 0 ≤ daysBeforeMonth year j := by
  simp only [daysBeforeMonth, ← List.sum_eq_foldl]
  exact sum_take_add_getD_le (monthLengths year) (by omega)

lemma daysBeforeMonth_thirteen (year : Int) :
    (daysBeforeMonth year 13 : Int) = daysBeforeYear (year + 1) - daysBeforeYear year := by
  rw [← Date.sum_monthLengths, daysBeforeMonth, ← List.sum_eq_foldl]
  rfl

end Calendar

namespace Date

variable {d e : Date}

lemma isValid_iff : d.isValid = true ↔ minYear ≤ d.year ∧ d.year ≤ maxYear ∧ 1 ≤ d.month ∧ d.month ≤ 12 ∧
    1 ≤ d.day ∧ d.day ≤ (monthLengths d.year).getD (d.month - 1) 0 := by
  simp only [isValid, Bool.and_eq_true, decide_eq_true_eq, and_assoc]

lemma dayNumber_bounds (h : d.isValid = true) :
    daysBeforeYear d.year - epochDay + daysBeforeMonth d.year d.month ≤ d.dayNumber ∧
      d.dayNumber < daysBeforeYear (d.year + 1) - epochDay := by
  obtain ⟨-, -, hmonth, hmonth', hday, hday'⟩ := isValid_iff.mp h
  have hrest := daysBeforeMonth_add_le d.year hmonth (by omega : d.month < 13)
  have hyear := daysBeforeMonth_thirteen d.year
  simp only [dayNumber]
  omega

lemma dayNumber_lt (hd : d.isValid = true) (he : e.isValid = true)
    (h : d.year < e.year ∨ d.year = e.year ∧ (d.month < e.month ∨ d.month = e.month ∧ d.day < e.day)) :
    d.dayNumber < e.dayNumber := by
  rcases h with hyear | ⟨hyear, hmonth | ⟨hmonth, hday⟩⟩
  · have hyears : daysBeforeYear (d.year + 1) ≤ daysBeforeYear e.year := by
      rcases Int.lt_or_eq_of_le (Int.add_one_le_of_lt hyear) with hlt | heq
      · have := daysBeforeYear_add_le hlt
        omega
      · rw [heq]
    have hbefore := (dayNumber_bounds hd).2
    have hafter := (dayNumber_bounds he).1
    omega
  · obtain ⟨-, -, hlow, -, -, hhigh⟩ := isValid_iff.mp hd
    have hday := (isValid_iff.mp he).2.2.2.2.1
    have hmonths := daysBeforeMonth_add_le d.year hlow hmonth
    simp only [dayNumber, ← hyear]
    omega
  · simp only [dayNumber, ← hyear, ← hmonth]
    omega

end Date

namespace TimeValue

def meanBeginning (year : Int) : Int := (year - 1970) * secondsPerYear

lemma approximate_eq {year : Int} (hlow : -9999 ≤ year) (hhigh : year ≤ 9999) :
    approximate year = meanBeginning year := by
  have hyear : Significand.round 53 year = year := Significand.round_of_natAbs_lt (by omega)
  have hdifference : Significand.round 53 (year - 1970) = year - 1970 :=
    Significand.round_of_natAbs_lt (by omega)
  simp only [approximate, hyear, hdifference, meanBeginning]
  exact Significand.round_of_natAbs_lt (by simp only [secondsPerYear]; omega)

lemma meanBeginning_bounds (year : Int) :
    86400 * (daysBeforeYear year - epochDay - 2) ≤ meanBeginning year ∧
      meanBeginning year < 86400 * (daysBeforeYear year - epochDay + 1) := by
  simp only [meanBeginning, secondsPerYear, daysBeforeYear, epochDay]
  omega

lemma meanBeginning_mono {y z : Int} (h : y ≤ z) : meanBeginning y ≤ meanBeginning z := by
  simp only [meanBeginning, secondsPerYear]
  omega

end TimeValue

namespace TimeParts

open TimeValue

variable {s : String} {p q : TimeParts}

def fields (p : TimeParts) : List Int :=
  [p.year, p.month, p.day, p.clock.hour, p.clock.minute, p.clock.second]

def InOrder (p q : TimeParts) : Prop := p.fields = q.fields ∨ List.Lex (· < ·) p.fields q.fields

def seconds (p : TimeParts) : Int := (Moment.ofDateClock p.date p.clock).seconds

/-- A day of the calendar comes after the mean beginning of the year of one that the calendar has not. -/
def Overshoots (p q : TimeParts) : Prop :=
  p.date.isValid = true ∧ q.date.isValid = false ∧ meanBeginning q.year < p.seconds

structure InBounds (p : TimeParts) : Prop where
  month : 1 ≤ p.month ∧ p.month ≤ 12
  day : 1 ≤ p.day ∧ p.day ≤ 31
  clock : p.clock.hour ≤ 23 ∧ p.clock.minute ≤ 59 ∧ p.clock.second ≤ 59
  year : -9999 ≤ p.year ∧ p.year ≤ 9999

lemma inBounds_of_ofString? (h : ofString? s = some p) (hyear : -9999 ≤ p.year ∧ p.year ≤ 9999) : p.InBounds := by
  obtain ⟨_, _, _, month, day, hour, minute, second, -, -, hmonth, hday, hhour, hminute, rfl⟩ :=
    exists_of_ofString? h
  exact ⟨by dsimp only; omega, by dsimp only; omega, by dsimp only; omega, hyear⟩

lemma inOrder_iff : p.InOrder q ↔
    (p.year < q.year ∨ p.year = q.year ∧ (p.month < q.month ∨ p.month = q.month ∧ p.day < q.day)) ∨
      p.date = q.date ∧ (p.clock.hour < q.clock.hour ∨ p.clock.hour = q.clock.hour ∧
        (p.clock.minute < q.clock.minute ∨ p.clock.minute = q.clock.minute ∧
          p.clock.second ≤ q.clock.second)) := by
  simp only [InOrder, fields, List.cons.injEq, List.cons_lex_cons_iff, List.not_lex_nil, and_true, and_false,
    or_false, Nat.cast_lt, Nat.cast_inj, date, Date.mk.injEq]
  omega

lemma seconds_le (hp : p.InBounds) (hpdate : p.date.isValid = true) (hqdate : q.date.isValid = true)
    (h : p.InOrder q) : p.seconds ≤ q.seconds := by
  obtain ⟨hhour, hminute, hsecond⟩ := hp.clock
  simp only [seconds, Moment.ofDateClock, Clock.seconds]
  rcases inOrder_iff.mp h with hdate | ⟨hdate, hclock⟩
  · have hlt : p.date.dayNumber < q.date.dayNumber := Date.dayNumber_lt hpdate hqdate hdate
    omega
  · rw [hdate]
    omega

lemma two_le_month (hp : p.InBounds) (hdate : p.date.isValid = false) : 2 ≤ p.month := by
  by_contra hmonth
  -- January has as many days as a month can have.
  have hjanuary : p.month = 1 := by have := hp.month; omega
  have hvalid : p.date.isValid = true := by
    refine Date.isValid_iff.mpr ⟨?_, ?_, hp.month.1, hp.month.2, hp.day.1, ?_⟩
    · have := hp.year
      simp only [minYear, date]
      omega
    · have := hp.year
      simp only [maxYear, date]
      omega
    · simp only [date, hjanuary]
      exact hp.day.2
  rw [hvalid] at hdate
  cases hdate

lemma meanBeginning_le_seconds (hp : p.InBounds) (hpdate : p.date.isValid = false)
    (hqdate : q.date.isValid = true) (h : p.InOrder q) : meanBeginning p.year ≤ q.seconds := by
  have hmean := (meanBeginning_bounds p.year).2
  have hday := (Date.dayNumber_bounds hqdate).1
  have hmonth := two_le_month hp hpdate
  -- In the same year the later day is after January as well, and the mean year begins at most a day late.
  have hyear : daysBeforeYear p.year + 1 ≤ daysBeforeYear q.year + daysBeforeMonth q.year q.month := by
    by_cases hlater : p.year < q.year
    · have := daysBeforeYear_add_le hlater
      omega
    · have hsame : p.year = q.year ∧ p.month ≤ q.month := by
        rcases inOrder_iff.mp h with hdate | ⟨hdate, -⟩
        · omega
        · exact ⟨congrArg Date.year hdate, (congrArg Date.month hdate).le⟩
      have hjanuary : 31 ≤ daysBeforeMonth q.year q.month := by
        have := daysBeforeMonth_add_le q.year (le_refl 1) (hmonth.trans hsame.2)
        have hlength : (monthLengths q.year).getD (1 - 1) 0 = 31 := rfl
        omega
      rw [hsame.1]
      omega
  simp only [date] at hday
  simp only [seconds, Moment.ofDateClock, date]
  omega

lemma timestamp_eq {t : TimeValue} (h : ofString? t.time = some p) (hyear : -9999 ≤ p.year ∧ p.year ≤ 9999) :
    t.timestamp = .ok (if p.date.isValid then p.seconds else meanBeginning p.year) := by
  rw [TimeValue.timestamp, h]
  simp only [moment?]
  cases p.date.isValid with
  | true => rfl
  | false =>
    simp only [Bool.false_eq_true, if_false]
    rw [approximate_eq hyear.1 hyear.2]

/-- Points in time that are in order have timestamps in order, unless the later one is no day of the calendar
and the earlier one overshoots it. -/
theorem timestamp_le_iff_not_overshoots {a b : TimeValue} (ha : ofString? a.time = some p)
    (hb : ofString? b.time = some q) (hp : -9999 ≤ p.year ∧ p.year ≤ 9999)
    (hq : -9999 ≤ q.year ∧ q.year ≤ 9999) (hle : p.InOrder q) :
    ∃ s t, a.timestamp = .ok s ∧ b.timestamp = .ok t ∧ (s ≤ t ↔ ¬ p.Overshoots q) := by
  have hbounds := inBounds_of_ofString? ha hp
  refine ⟨_, _, timestamp_eq ha hp, timestamp_eq hb hq, ?_⟩
  cases hqdate : q.date.isValid with
  | true =>
    have hnot : ¬ p.Overshoots q := fun h => by rw [h.2.1] at hqdate; cases hqdate
    simp only [hnot, not_false_eq_true, iff_true, if_true]
    cases hpdate : p.date.isValid with
    | true => exact seconds_le hbounds hpdate hqdate hle
    | false => exact meanBeginning_le_seconds hbounds hpdate hqdate hle
  | false =>
    cases hpdate : p.date.isValid with
    | true => simp [Overshoots, hpdate, hqdate]
    | false =>
      have hyear : p.year ≤ q.year := by
        rcases inOrder_iff.mp hle with hdate | ⟨hdate, -⟩
        · omega
        · exact (congrArg Date.year hdate).le
      simpa [Overshoots, hpdate] using meanBeginning_mono hyear

theorem year_before_missing_day :
    let a : TimeValue := { time := "-0500-00-00T00:00:00Z" }
    let b : TimeValue := { time := "+1900-02-29T23:59:60Z" }
    ∃ p q, ofString? a.time = some p ∧ ofString? b.time = some q ∧
      (-9999 ≤ p.year ∧ p.year ≤ 9999) ∧ (-9999 ≤ q.year ∧ q.year ≤ 9999) ∧ p.InOrder q ∧
        q.date.isValid = false ∧ ∃ s t, a.timestamp = .ok s ∧ b.timestamp = .ok t ∧ s ≤ t := by
  intro a b
  have ha : ofString? a.time = some ⟨-500, 1, 1, ⟨0, 0, 0⟩⟩ := by decide
  have hb : ofString? b.time = some ⟨1900, 2, 29, ⟨23, 59, 59⟩⟩ := by decide
  have hfields : InOrder ⟨-500, 1, 1, ⟨0, 0, 0⟩⟩ ⟨1900, 2, 29, ⟨23, 59, 59⟩⟩ := .inr (.rel (by decide))
  obtain ⟨s, t, hs, ht, hle⟩ :=
    timestamp_le_iff_not_overshoots ha hb (by decide) (by decide) hfields
  refine ⟨_, _, ha, hb, by decide, by decide, hfields, by decide, s, t, hs, ht, hle.mpr ?_⟩
  rintro ⟨-, -, hlt⟩
  exact absurd hlt (by decide)

theorem missing_day_overshot :
    let a : TimeValue := { time := "+2000-02-28T00:00:00Z" }
    let b : TimeValue := { time := "+2000-02-30T00:00:00Z" }
    (ofString? a.time).map fields = some [2000, 2, 28, 0, 0, 0] ∧
      (ofString? b.time).map fields = some [2000, 2, 30, 0, 0, 0] ∧
        List.Lex (· < ·) ([2000, 2, 28, 0, 0, 0] : List Int) [2000, 2, 30, 0, 0, 0] ∧
          a.timestamp = .ok 951696000 ∧ b.timestamp = .ok 946708560 := by
  decide +kernel

end TimeParts

end EntityAudit
