import EntityAudit.Proofs.Calendar
import EntityAudit.Proofs.Text.Number
import EntityAudit.Time

namespace EntityAudit

open Calendar Text

def Moment.InCalendar (m : Moment) : Prop := minYear ≤ m.date.year ∧ m.date.year ≤ maxYear

namespace TimeParts

variable {year month day hour minute second : List Char}

lemma ofString?_joined {sgn : Char} {negative : Bool} (hsign : ∀ cs, sign (sgn :: cs) = (negative, cs))
    (hyear : 'T' ∉ year) (hmonth : '-' ∉ month ∧ 'T' ∉ month) (hday : '-' ∉ day ∧ 'T' ∉ day)
    (hhour : ':' ∉ hour) (hminute : ':' ∉ minute) :
    ofString? (String.ofList (sgn :: (year ++ '-' :: (month ++ '-' :: (day ++ 'T' :: (hour ++ ':' ::
      (minute ++ ':' :: (second ++ ['Z'])))))))) = do
      let hour ← natural? UInt32.size hour
      let minute ← natural? UInt32.size minute
      let second ← natural? UInt32.size second
      let year ← integer? (-9223372036854775808) 9223372036854775808 year
      let month ← natural? UInt32.size month
      let day ← natural? UInt32.size day
      if 12 < month ∨ 31 < day ∨ 23 < hour ∨ 59 < minute ∨ 60 < second then none
      else return {
        year := if negative then opposite year else year
        month := max month 1
        day := max day 1
        clock := ⟨hour, minute, min second 59⟩ } := by
  have hdrop : dropFinalZ (year ++ '-' :: (month ++ '-' :: (day ++ 'T' :: (hour ++ ':' ::
      (minute ++ ':' :: (second ++ ['Z'])))))) =
      (year ++ '-' :: month ++ '-' :: day) ++ 'T' :: (hour ++ ':' :: (minute ++ ':' :: second)) := by
    simp [dropFinalZ]
  have hdate : 'T' ∉ year ++ '-' :: month ++ '-' :: day := by
    simp [hyear, hmonth, hday]
  have hclock : clockTexts (hour ++ ':' :: (minute ++ ':' :: second)) = (hour, minute, second) := by
    rw [clockTexts, splitOnce?_append hhour]
    simp only [splitOnce?_append hminute]
  rw [ofString?, String.toList_ofList, hsign]
  simp only [hdrop, splitOnce?_append hdate, Option.getD_some, splitLast?_append hday.1,
    Option.bind_some, Option.bind_eq_bind, splitLast?_append hmonth.1, hclock]

lemma exists_dropFinalZ_append (cs : List Char) : ∃ r, cs = dropFinalZ cs ++ r := by
  unfold dropFinalZ
  split
  · rename_i r h
    refine ⟨['Z'], ?_⟩
    rw [← List.reverse_reverse cs, h, List.reverse_cons]
  · exact ⟨[], (List.append_nil cs).symm⟩

lemma exists_date_append (cs clock : List Char) :
    ∃ r, cs = ((splitOnce? 'T' cs).getD (cs, clock)).1 ++ r := by
  cases h : splitOnce? 'T' cs with
  | none => exact ⟨[], by simp⟩
  | some parts => exact ⟨'T' :: parts.2, splitOnce?_eq_some h⟩

lemma exists_of_ofString? {s : String} {p : TimeParts} (h : ofString? s = some p) :
    ∃ year rest y month day hour minute second, (sign s.toList).2 = year ++ '-' :: rest ∧
      integer? (-9223372036854775808) 9223372036854775808 year = some y ∧
      month ≤ 12 ∧ day ≤ 31 ∧ hour ≤ 23 ∧ minute ≤ 59 ∧
      p = ⟨if (sign s.toList).1 then opposite y else y, max month 1, max day 1,
        ⟨hour, minute, min second 59⟩⟩ := by
  simp only [ofString?, Option.bind_eq_bind, Option.bind_eq_some_iff, Prod.exists,
    Option.ite_none_left_eq_some, Option.pure_def, Option.some.injEq] at h
  obtain ⟨front, dayText, hday, year, monthText, hmonth, hour, -, minute, -, second, -, y, hyear, month, -,
    day, -, hbounds, rfl⟩ := h
  obtain ⟨final, hfinal⟩ := exists_dropFinalZ_append (sign s.toList).2
  obtain ⟨clock, hclock⟩ := exists_date_append (dropFinalZ (sign s.toList).2) "00:00:00".toList
  refine ⟨year, monthText ++ '-' :: dayText ++ clock ++ final, y, month, day, hour, minute, second, ?_, hyear,
    by omega, by omega, by omega, by omega, rfl⟩
  calc (sign s.toList).2
      = front ++ '-' :: dayText ++ clock ++ final := by rw [← splitLast?_eq_some hday, ← hclock, ← hfinal]
    _ = year ++ '-' :: monthText ++ '-' :: dayText ++ clock ++ final := by rw [splitLast?_eq_some hmonth]
    _ = year ++ '-' :: (monthText ++ '-' :: dayText ++ clock ++ final) := by simp

end TimeParts

namespace TimeValue

def signOf (year : Int) : Char := if year < 0 then '-' else '+'

lemma sign_signOf (year : Int) (cs : List Char) :
    TimeParts.sign (signOf year :: cs) = (decide (year < 0), cs) := by
  by_cases h : year < 0
  · simp [signOf, h, TimeParts.sign]
  · simp [signOf, h, TimeParts.sign]

lemma time_ofMoment (m : Moment) :
    (ofMoment m).time = String.ofList (signOf m.date.year ::
      ((zeroPadded 4 m.date.year.natAbs).toList ++ '-' :: ((zeroPadded 2 m.date.month).toList ++
        '-' :: ((zeroPadded 2 m.date.day).toList ++ 'T' :: ((zeroPadded 2 m.clock.hour).toList ++
          ':' :: ((zeroPadded 2 m.clock.minute).toList ++ ':' ::
            ((zeroPadded 2 m.clock.second).toList ++ ['Z']))))))) := by
  apply String.toList_inj.mp
  by_cases h : m.date.year < 0
  · simp [ofMoment, signedPadded, signOf, h]
  · simp [ofMoment, signedPadded, signOf, h]

lemma signed_year {year : Int} (h : minYear ≤ year) :
    (if decide (year < 0) = true then TimeParts.opposite year.natAbs else (year.natAbs : Int)) =
      year := by
  simp only [minYear] at h
  simp only [decide_eq_true_eq, TimeParts.opposite]
  split
  · rw [if_neg (by omega)]
    omega
  · omega

lemma natural?_field {width n : Nat} (h : n < 60) :
    natural? UInt32.size (zeroPadded width n).toList = some n :=
  natural?_zeroPadded (Nat.lt_trans h (by decide))

lemma parts_ofMoment {m : Moment} (h : m.InCalendar) :
    TimeParts.ofString? (ofMoment m).time = some ⟨m.date.year, m.date.month, m.date.day, m.clock⟩ := by
  obtain ⟨hm, hm', hd, hd'⟩ := m.date_bounds
  obtain ⟨hhour, hminute, hsecond⟩ := m.clock_bounds
  have hlow := h.1
  have hhigh := h.2
  simp only [minYear] at hlow
  simp only [maxYear] at hhigh
  rw [time_ofMoment, TimeParts.ofString?_joined (sign_signOf _) (not_mem_zeroPadded rfl)
    ⟨not_mem_zeroPadded rfl, not_mem_zeroPadded rfl⟩ ⟨not_mem_zeroPadded rfl, not_mem_zeroPadded rfl⟩
    (not_mem_zeroPadded rfl) (not_mem_zeroPadded rfl)]
  rw [natural?_field (by omega), natural?_field (by omega), natural?_field (by omega),
    integer?_zeroPadded (by omega) (by omega), natural?_field (by omega), natural?_field (by omega)]
  simp only [Option.bind_eq_bind, Option.bind_some]
  rw [if_neg (by omega), signed_year h.1, Nat.max_eq_left hm, Nat.max_eq_left hd,
    Nat.min_eq_left (by omega)]
  rfl

lemma moment?_ofMoment {m : Moment} (h : m.InCalendar) :
    (ofMoment m).moment? = some ⟨m.seconds, 0⟩ := by
  have hvalid : m.date.isValid = true := Date.isValid_ofDayNumber h.1 h.2
  rw [moment?, parts_ofMoment h, Option.bind_some, ← m.ofDateClock_date_clock]
  exact if_pos hvalid

lemma timestamp_of_moment? {t : TimeValue} {m : Moment} (h : t.moment? = some m) :
    t.timestamp = .ok m.seconds := by
  obtain ⟨p, hp, hm⟩ := Option.bind_eq_some_iff.mp h
  rw [timestamp, hp]
  simp only [hm]

lemma timestamp_ofMoment {m : Moment} (h : m.InCalendar) :
    (ofMoment m).timestamp = .ok m.seconds :=
  timestamp_of_moment? (m := ⟨m.seconds, 0⟩) (moment?_ofMoment h)

lemma nanos_of_moment? {t : TimeValue} {m : Moment} (h : t.moment? = some m) : m.nanos = 0 := by
  obtain ⟨p, -, hm⟩ := Option.bind_eq_some_iff.mp h
  unfold TimeParts.moment? at hm
  split at hm
  · obtain rfl := Option.some.inj hm
    rfl
  · cases hm

lemma ofMoment_congr {m n : Moment} (h : n.seconds = m.seconds) : ofMoment n = ofMoment m := by
  have hdate : n.date = m.date := by rw [Moment.date, Moment.date, h]
  have hclock : n.clock = m.clock := by rw [Moment.clock, Moment.clock, h]
  rw [ofMoment, ofMoment, hdate, hclock]

lemma seconds_of_ofMoment_eq {m n : Moment} (hm : m.InCalendar) (hn : n.InCalendar)
    (h : ofMoment n = ofMoment m) : n.seconds = m.seconds := by
  have htimestamp := timestamp_ofMoment hn
  rw [h, timestamp_ofMoment hm] at htimestamp
  exact (Except.ok.inj htimestamp).symm

/-- What a moment loses when it is written as a point in time is its fraction of a second, and nothing else:
it is read back to the second, its timestamp is its seconds, and only moments of one second are written
alike. -/
theorem reread_to_the_second {m : Moment} (h : m.InCalendar) :
    (ofMoment m).moment? = some { m with nanos := 0 } ∧ (ofMoment m).timestamp = .ok m.seconds ∧
      ∀ n : Moment, n.InCalendar → (ofMoment n = ofMoment m ↔ n.seconds = m.seconds) :=
  ⟨moment?_ofMoment h, timestamp_ofMoment h, fun _ hn => ⟨seconds_of_ofMoment_eq h hn, ofMoment_congr⟩⟩

theorem reread_at_the_beginning :
    let m : Moment := ⟨-8334601228800, 500000000⟩
    m.InCalendar ∧ (ofMoment m).time = "-262143-01-01T00:00:00Z" ∧
      (ofMoment m).moment? = some ⟨-8334601228800, 0⟩ ∧ (ofMoment m).timestamp = .ok (-8334601228800) := by
  intro m
  have hm : m.InCalendar := ⟨by decide, by decide⟩
  obtain ⟨hmoment, htimestamp, -⟩ := reread_to_the_second hm
  exact ⟨hm, by decide, hmoment, htimestamp⟩

end TimeValue

end EntityAudit
