import EntityAudit.Proofs.Text.Number
import EntityAudit.Proofs.Time
import Mathlib.Data.List.TakeWhile

namespace EntityAudit.Moment

open Calendar Text

variable {cs r : List Char} {c : Char} {width n : Nat}

lemma digits?_append (hcs : ∀ c ∈ cs, Text.isDigit c = true) (hlength : cs.length ≤ width)
    (hr : cs.length = width ∨ ∀ c ∈ r.head?, Text.isDigit c = false) :
    digits? width (cs ++ r) = (Text.digits? cs).map fun n => (n, r) := by
  have hrest : (r.take (width - cs.length)).takeWhile Text.isDigit = [] := by
    rcases hr with rfl | hr
    · rw [Nat.sub_self, List.take_zero, List.takeWhile_nil]
    · cases r with
      | nil => simp
      | cons c r =>
        have hc := hr c rfl
        cases width - cs.length with
        | zero => simp
        | succ k => simp [hc]
  have hdigits : ((cs ++ r).take width).takeWhile Text.isDigit = cs := by
    rw [List.take_append, List.take_of_length_le hlength, List.takeWhile_append_of_pos hcs, hrest,
      List.append_nil]
  simp only [digits?, hdigits, List.drop_left]

lemma digits?_zeroPadded (hwidth : 0 < width) (h : n < 10 ^ width) :
    digits? width ((zeroPadded width n).toList ++ r) = some (n, r) := by
  have hlength := length_zeroPadded hwidth h
  rw [digits?_append (fun c hc => isDigit_zeroPadded hc) hlength.le (.inl hlength), Text.digits?_zeroPadded]
  rfl

lemma twoDigits?_zeroPadded (h : n < 100) : twoDigits? ((zeroPadded 2 n).toList ++ r) = some (n, r) := by
  rw [twoDigits?, trimStart_zeroPadded, digits?_zeroPadded (by decide) h]

lemma expect?_cons (h : isBlank c = false) : expect? c (c :: r) = some r := by
  rw [expect?, trimStart_cons h]
  exact if_pos rfl

def yearText (year : Int) : String :=
  if 0 ≤ year ∧ year ≤ 9999 then zeroPadded 4 year.toNat else signedPadded 5 year

lemma year?_zeroPadded (h : n ≤ 9999) : year? ((zeroPadded 4 n).toList ++ r) = some ((n : Int), r) := by
  obtain ⟨c, cs, hcs, hc⟩ := exists_zeroPadded 4 n
  have hsign : ∀ d, d.isDigit = false → ∀ r', (zeroPadded 4 n).toList ++ r ≠ d :: r' := by
    intro d hd r' heq
    rw [hcs] at heq
    obtain rfl := (List.cons.inj heq).1
    rw [hc] at hd
    cases hd
  rw [year?.eq_3 _ (hsign '-' rfl) (hsign '+' rfl), digits?_zeroPadded (by decide) (by omega)]
  rfl

lemma toList_signedPadded (width : Nat) (i : Int) :
    (signedPadded width i).toList = TimeValue.signOf i :: (zeroPadded (width - 1) i.natAbs).toList := by
  by_cases h : i < 0
  · simp [signedPadded, TimeValue.signOf, h]
  · simp [signedPadded, TimeValue.signOf, h]

lemma year?_signOf {year : Int} (h : digits? cs.length cs = some (year.natAbs, r)) :
    year? (TimeValue.signOf year :: cs) = some (year, r) := by
  by_cases hyear : year < 0
  · have hvalue : -(year.natAbs : Int) = year := by omega
    simp only [TimeValue.signOf, if_pos hyear, year?, h, Option.map_some, hvalue]
  · have hvalue : (year.natAbs : Int) = year := by omega
    simp only [TimeValue.signOf, if_neg hyear, year?, h, Option.map_some, hvalue]

lemma year?_yearText (year : Int) :
    year? (trimStart ((yearText year).toList ++ '-' :: r)) = some (year, '-' :: r) := by
  unfold yearText
  split
  · rename_i h
    rw [trimStart_zeroPadded, year?_zeroPadded (by omega), Int.toNat_of_nonneg h.1]
  · have hblank : isBlank (TimeValue.signOf year) = false := by
      unfold TimeValue.signOf
      split
      · rfl
      · rfl
    have hdigits : digits? ((zeroPadded 4 year.natAbs).toList ++ '-' :: r).length
        ((zeroPadded 4 year.natAbs).toList ++ '-' :: r) = some (year.natAbs, '-' :: r) := by
      rw [digits?_append (fun c hc => isDigit_zeroPadded hc) (by simp) (.inr (by rintro c ⟨⟩; rfl)),
        Text.digits?_zeroPadded]
      rfl
    rw [toList_signedPadded, List.cons_append, trimStart_cons hblank, year?_signOf hdigits]

lemma fraction?_zeroPadded (hwidth : 0 < width) (hle : width ≤ 9) (h : n < 10 ^ width) :
    fraction? ('.' :: ((zeroPadded width n).toList ++ 'Z' :: r)) = some (n * 10 ^ (9 - width), 'Z' :: r) := by
  have hdigits : ∀ c ∈ (zeroPadded width n).toList, Text.isDigit c = true := fun c hc => isDigit_zeroPadded hc
  have hlength := length_zeroPadded hwidth h
  have hstop : Text.isDigit 'Z' = false := rfl
  have htake : ((zeroPadded width n).toList ++ 'Z' :: r).takeWhile Text.isDigit = (zeroPadded width n).toList := by
    simp [List.takeWhile_append_of_pos hdigits, hstop]
  have hdrop : ((zeroPadded width n).toList ++ 'Z' :: r).dropWhile Text.isDigit = 'Z' :: r := by
    simp [List.dropWhile_append_of_pos hdigits, hstop]
  simp only [fraction?, htake, hdrop, List.take_of_length_le (hlength.le.trans hle), Text.digits?_zeroPadded,
    Option.map_some, hlength, Nat.pow_eq]

lemma fraction?_fractionText (h : n < 1000000000) :
    fraction? ((fractionText n).toList ++ 'Z' :: r) = some (n, 'Z' :: r) := by
  have hpoint : ∀ t : String, ("." ++ t).toList = '.' :: t.toList := by simp
  unfold fractionText
  split
  · subst n
    rfl
  split
  · rw [hpoint, List.cons_append, fraction?_zeroPadded (by decide) (by decide) (by omega)]
    simp only [Option.some.injEq, Prod.mk.injEq, and_true]
    omega
  split
  · rw [hpoint, List.cons_append, fraction?_zeroPadded (by decide) (by decide) (by omega)]
    simp only [Option.some.injEq, Prod.mk.injEq, and_true]
    omega
  · rw [hpoint, List.cons_append, fraction?_zeroPadded (by decide) (by decide) (by omega)]
    simp

lemma bind_of_eq {α β : Type} {o : Option α} {a : α} {f : α → Option β} {b : Option β} (h : o = some a)
    (hf : f a = b) : (o >>= f) = b := by
  subst h
  exact hf

def textOf (d : Date) (c : Clock) (nanos : Nat) : String :=
  String.ofList ((yearText d.year).toList ++ '-' :: ((zeroPadded 2 d.month).toList ++ '-' ::
    ((zeroPadded 2 d.day).toList ++ 'T' :: ((zeroPadded 2 c.hour).toList ++ ':' ::
      ((zeroPadded 2 c.minute).toList ++ ':' :: ((zeroPadded 2 c.second).toList ++
        ((fractionText nanos).toList ++ ['Z'])))))))

lemma toString_eq_textOf (m : Moment) :
    m.toString = textOf m.date ⟨m.clock.hour, m.clock.minute, m.clock.second + m.nanos / 1000000000⟩
      (m.nanos % 1000000000) := by
  apply String.toList_inj.mp
  simp [toString, textOf, yearText]

lemma ofString?_textOf {m : Moment} {d : Date} {c : Clock} (hd : d.isValid = true)
    (hc : c.hour < 24 ∧ c.minute < 60 ∧ c.second ≤ 60) (hn : n < 1000000000)
    (hseconds : (ofDateClock d ⟨c.hour, c.minute, min c.second 59⟩).seconds = m.seconds)
    (hnanos : (n + if c.second = 60 then 1000000000 else 0) = m.nanos) (hcalendar : m.InCalendar) :
    ofString? (textOf d c n) = some m := by
  have htwo : ∀ n < 100, ∀ r, twoDigits? ((zeroPadded 2 n).toList ++ r) = some (n, r) :=
    fun n hn r => twoDigits?_zeroPadded hn
  have hdash : ∀ r, expect? '-' ('-' :: r) = some r := fun r => expect?_cons rfl
  have hcolon : ∀ r, expect? ':' (':' :: r) = some r := fun r => expect?_cons rfl
  have hoffset : offset? (trimStart ['Z']) = some (0, []) := rfl
  have hmonth : d.month < 100 ∧ d.day < 100 := by
    simp only [Date.isValid, Bool.and_eq_true, decide_eq_true_eq] at hd
    have hlength := Date.getD_monthLengths_le d.year (d.month - 1)
    omega
  have haccepted : ¬ (¬ (trimStart []).isEmpty = true ∨ 23 < c.hour ∨ 59 < c.minute ∨ 60 < c.second ∨
      ¬ d.isValid = true) := by
    rintro (hrest | hhour | hminute | hsecond | hinvalid)
    · exact hrest rfl
    · omega
    · omega
    · omega
    · exact hinvalid hd
  rw [ofString?, textOf, String.toList_ofList]
  -- A step for each field: what it leaves is what the next one reads.
  refine bind_of_eq (year?_yearText _) ?_
  refine bind_of_eq (hdash _) ?_
  refine bind_of_eq (htwo d.month hmonth.1 _) ?_
  refine bind_of_eq (hdash _) ?_
  refine bind_of_eq (htwo d.day hmonth.2 _) ?_
  refine bind_of_eq rfl ?_
  refine bind_of_eq (htwo c.hour (by omega) _) ?_
  refine bind_of_eq (hcolon _) ?_
  refine bind_of_eq (htwo c.minute (by omega) _) ?_
  refine bind_of_eq (hcolon _) ?_
  refine bind_of_eq (htwo c.second (by omega) _) ?_
  refine bind_of_eq (fraction?_fractionText hn) ?_
  refine bind_of_eq hoffset ?_
  dsimp only
  rw [if_neg haccepted, Int.sub_zero, hseconds, hnanos]
  exact if_pos hcalendar

structure OnClock (m : Moment) : Prop where
  inCalendar : m.InCalendar
  leap : m.nanos < 1000000000 ∨ m.nanos < 2000000000 ∧ m.seconds % 60 = 59

lemma second_clock (m : Moment) : (m.clock.second : Int) = m.seconds % 60 := by
  simp only [clock, Clock.ofSeconds]
  omega

theorem ofString?_toString {m : Moment} (h : m.OnClock) : ofString? m.toString = some m := by
  have hvalid : m.date.isValid = true := Date.isValid_ofDayNumber h.inCalendar.1 h.inCalendar.2
  have hseconds := congrArg Moment.seconds (ofDateClock_date_clock m)
  have hbounds := m.clock_bounds
  have hsecond := m.second_clock
  have hleap := h.leap
  rw [toString_eq_textOf]
  -- From here on the date and the time of day are any that have these bounds and give these seconds.
  generalize m.date = d at *
  generalize m.clock = c at *
  have hmin : min (c.second + m.nanos / 1000000000) 59 = c.second := by omega
  refine ofString?_textOf hvalid ⟨hbounds.1, hbounds.2.1, ?_⟩ (Nat.mod_lt _ (by decide)) ?_ ?_ h.inCalendar
  · dsimp only
    omega
  · dsimp only
    rw [hmin]
    exact hseconds
  · dsimp only
    split
    · omega
    · omega

lemma fraction?_lt (h : fraction? cs = some (n, r)) : n < 1000000000 := by
  unfold fraction? at h
  split at h
  · rename_i cs
    obtain ⟨k, hk, hn⟩ := Option.map_eq_some_iff.mp h
    obtain ⟨rfl, -⟩ := Prod.mk.inj hn
    have hlength : ((cs.takeWhile Text.isDigit).take 9).length ≤ 9 := List.length_take_le 9 _
    generalize (cs.takeWhile Text.isDigit).take 9 = ds at *
    have hlt := digits?_lt hk
    calc k * 10 ^ (9 - ds.length) < 10 ^ ds.length * 10 ^ (9 - ds.length) :=
          Nat.mul_lt_mul_of_pos_right hlt (Nat.pow_pos (by decide))
      _ = 10 ^ 9 := by rw [← Nat.pow_add, Nat.add_sub_cancel' hlength]
  · obtain ⟨rfl, -⟩ := Prod.mk.inj (Option.some.inj h)
    decide

lemma exists_sign {α : Type} {p q : Prop} [Decidable p] [Decidable q] {f : Int → Option α} {a : α}
    (h : (if p then some 1 >>= f else if q then some (-1) >>= f else none >>= f) = some a) :
    ∃ sign, f sign = some a := by
  split at h
  · exact ⟨1, h⟩
  · split at h
    · exact ⟨-1, h⟩
    · cases h

lemma signed?_emod {o : Int} (h : offset?.signed? cs = some (o, r)) : o % 60 = 0 := by
  unfold offset?.signed? at h
  split at h
  · dsimp only at h
    obtain ⟨sign, h⟩ := exists_sign h
    obtain ⟨hours, -, h⟩ := Option.bind_eq_some_iff.mp h
    split at h
    · obtain ⟨minutes, -, h⟩ := Option.bind_eq_some_iff.mp h
      obtain ⟨-, h⟩ := Option.ite_none_right_eq_some.mp h
      obtain ⟨rfl, -⟩ := Prod.mk.inj (Option.some.inj h)
      have hvalue : sign * ((3600 * hours + 60 * minutes : Nat) : Int) = 60 * (sign * (60 * hours + minutes)) := by
        push_cast
        ring
      rw [hvalue, Int.mul_emod_right]
    · cases h
  · cases h

lemma offset?_emod {o : Int} (h : offset? cs = some (o, r)) : o % 60 = 0 := by
  unfold offset? at h
  split at h
  · obtain ⟨rfl, -⟩ := Prod.mk.inj (Option.some.inj h)
    rfl
  · obtain ⟨rfl, -⟩ := Prod.mk.inj (Option.some.inj h)
    rfl
  · split at h
    · obtain ⟨rfl, -⟩ := Prod.mk.inj (Option.some.inj h)
      rfl
    · exact signed?_emod h
  · exact signed?_emod h

lemma onClock_of_ofString? {s : String} {m : Moment} (h : ofString? s = some m) : m.OnClock := by
  unfold ofString? at h
  obtain ⟨⟨year, cs⟩, -, h⟩ := Option.bind_eq_some_iff.mp h
  obtain ⟨cs, -, h⟩ := Option.bind_eq_some_iff.mp h
  obtain ⟨⟨month, cs⟩, -, h⟩ := Option.bind_eq_some_iff.mp h
  obtain ⟨cs, -, h⟩ := Option.bind_eq_some_iff.mp h
  obtain ⟨⟨day, cs⟩, -, h⟩ := Option.bind_eq_some_iff.mp h
  dsimp only at h
  split at h
  · split at h
    · obtain ⟨cs, -, h⟩ := Option.bind_eq_some_iff.mp h
      obtain ⟨⟨hour, cs⟩, -, h⟩ := Option.bind_eq_some_iff.mp h
      obtain ⟨cs, -, h⟩ := Option.bind_eq_some_iff.mp h
      obtain ⟨⟨minute, cs⟩, -, h⟩ := Option.bind_eq_some_iff.mp h
      obtain ⟨cs, -, h⟩ := Option.bind_eq_some_iff.mp h
      obtain ⟨⟨second, cs⟩, -, h⟩ := Option.bind_eq_some_iff.mp h
      obtain ⟨⟨nanos, cs⟩, hnanos, h⟩ := Option.bind_eq_some_iff.mp h
      obtain ⟨⟨offset, cs⟩, hoffset, h⟩ := Option.bind_eq_some_iff.mp h
      have hlt := fraction?_lt hnanos
      have hminutes := offset?_emod hoffset
      obtain ⟨-, h⟩ := Option.ite_none_left_eq_some.mp h
      obtain ⟨hcalendar, h⟩ := Option.ite_none_right_eq_some.mp h
      obtain rfl := Option.some.inj h
      refine ⟨hcalendar, ?_⟩
      simp only [ofDateClock, Clock.seconds]
      split
      · omega
      · omega
    · cases h
  · cases h

def ReadsBack (m : Moment) : Prop := ofString? m.toString = some m

instance (m : Moment) : Decidable m.ReadsBack := inferInstanceAs (Decidable (_ = _))

theorem readsBack_iff_onClock {m : Moment} : m.ReadsBack ↔ m.OnClock :=
  ⟨onClock_of_ofString?, ofString?_toString⟩

end EntityAudit.Moment
