import EntityAudit.Proofs.Metadata
import EntityAudit.Proofs.Time
import EntityAudit.Rule.Range

namespace EntityAudit

def Value.IsDated : Value → Prop
  | time t => t.moment?.isSome
  | _ => True

inductive Unexpired (past now : Moment) (v : Option Value) (m : Metadata) : Prop
  | same (h : now = past)
  | later (notBefore : now.isBefore past = false) (past_in : past.InCalendar) (now_in : now.InCalendar)
      (dated : ∀ x ∈ v, x.IsDated) (ahead : m.future.all now.isBefore = true)

lemma Unexpired.mono {past now : Moment} {v : Option Value} {m n : Metadata}
    (h : Unexpired past now v m)
    (hahead : m.future.all now.isBefore = true → n.future.all now.isBefore = true) :
    Unexpired past now v n := by
  rcases h with rfl | ⟨hle, hpast, hnow, hdated, ahead⟩
  · exact .same rfl
  · exact .later hle hpast hnow hdated (hahead ahead)

namespace Range

variable {past now : Moment} {t : TimeValue} {m : Moment} {x : Int}

lemma order?_now (h : t.timestamp = .ok x) (hnow : now.InCalendar) :
    (Value.time t).order? (Bound.now.at_ now) = some (compare x now.seconds) := by
  simp only [Value.order?, Value.magnitude?, Bound.at_, h, TimeValue.timestamp_ofMoment hnow]
  rfl

lemma order?_now_of_ne_time {v : Value} (h : ∀ t, v ≠ .time t) (now : Moment) :
    v.order? (Bound.now.at_ now) = none := by
  cases v with
  | time t => exact absurd rfl (h t)
  | quantity q =>
    simp only [Value.order?, Value.magnitude?, Bound.at_]
    cases (TimeValue.ofMoment now).timestamp with
    | ok seconds => rfl
    | error e => rfl
  | string => rfl
  | entity => rfl
  | monolingual => rfl
  | globe => rfl

lemma isBeyond?_now (h : t.timestamp = .ok x) (hnow : now.InCalendar) (o : Ordering) :
    isBeyond? now (.time t) o (some .now) = some (compare x now.seconds == o) := by
  simp only [isBeyond?, order?_now h hnow, Option.map_some]

lemma isBeyond?_of_ne_time {v : Value} (h : ∀ t, v ≠ .time t) (past now : Moment) (o : Ordering)
    (bound : Option Bound) : isBeyond? now v o bound = isBeyond? past v o bound := by
  rcases bound with _ | w | _
  · rfl
  · rfl
  · simp only [isBeyond?, order?_now_of_ne_time h]

lemma future_verdict {r : Range} {v : Value} {below above : Bool}
    (hlow : isBeyond? now v .lt r.minimum = some below)
    (hhigh : isBeyond? now v .gt r.maximum = some above) :
    (r.verdict now v).metadata.future = r.turningPoint? v below above := by
  have hof : ∀ (b : Bool) (m : Message), (Verdict.of b m).metadata = .blank := by
    intro b m
    cases b <;> rfl
  simp only [verdict, hlow, hhigh]
  cases r.turningPoint? v below above with
  | none => simp only [Verdict.withParameter, hof]; rfl
  | some m => simp only [Verdict.withMetadata, Verdict.withParameter, hof]; rfl

lemma verdict_eq_of_isBeyond? {r : Range} {v : Value} {below above below' above' : Bool}
    (hlow : isBeyond? past v .lt r.minimum = some below)
    (hhigh : isBeyond? past v .gt r.maximum = some above)
    (hlow' : isBeyond? now v .lt r.minimum = some below')
    (hhigh' : isBeyond? now v .gt r.maximum = some above')
    (houtside : (below' || above') = (below || above))
    (habove : r.maximum.any Bound.isNow = true → above' = above) :
    r.verdict now v = r.verdict past v := by
  have hturn : r.turningPoint? v below' above' = r.turningPoint? v below above := by
    simp only [turningPoint?, houtside]
    by_cases hmax : r.maximum.any Bound.isNow = true
    · rw [habove hmax]
    · rw [Bool.not_eq_true] at hmax
      simp only [hmax, Bool.false_and]
  simp only [verdict, hlow, hhigh, hlow', hhigh', hturn, houtside]

lemma turningPoint?_time {r : Range} {below above : Bool}
    (h : (r.minimum.any Bound.isNow && !(below || above) || r.maximum.any Bound.isNow && above) = true) :
    r.turningPoint? (.time t) below above = t.moment? :=
  if_pos h

lemma not_ahead (hnow : m.seconds ≤ now.seconds) (hm : m.nanos = 0) : now.isBefore m = false := by
  rw [← Bool.not_eq_true, Moment.isBefore_iff]
  omega

lemma seconds_le (h : now.isBefore past = false) : past.seconds ≤ now.seconds := by
  rw [← Bool.not_eq_true, Moment.isBefore_iff] at h
  omega

lemma isBeyond?_minimum (h : t.timestamp = .ok x) (hpast : past.InCalendar) (hnow : now.InCalendar)
    (bound : Option Bound) :
    bound.any Bound.isNow = false ∧
        isBeyond? now (.time t) .lt bound = isBeyond? past (.time t) .lt bound ∨
      bound.any Bound.isNow = true ∧
        isBeyond? past (.time t) .lt bound = some (decide (x < past.seconds)) ∧
        isBeyond? now (.time t) .lt bound = some (decide (x < now.seconds)) := by
  rcases bound with _ | w | _
  · exact .inl ⟨rfl, rfl⟩
  · exact .inl ⟨rfl, rfl⟩
  · refine .inr ⟨rfl, ?_⟩
    simp only [isBeyond?_now h hpast, isBeyond?_now h hnow, Bool.beq_eq_decide_eq, Int.compare_eq_lt,
      and_self]

lemma isBeyond?_maximum (h : t.timestamp = .ok x) (hpast : past.InCalendar) (hnow : now.InCalendar)
    (bound : Option Bound) :
    bound.any Bound.isNow = false ∧
        isBeyond? now (.time t) .gt bound = isBeyond? past (.time t) .gt bound ∨
      bound.any Bound.isNow = true ∧
        isBeyond? past (.time t) .gt bound = some (decide (past.seconds < x)) ∧
        isBeyond? now (.time t) .gt bound = some (decide (now.seconds < x)) := by
  rcases bound with _ | w | _
  · exact .inl ⟨rfl, rfl⟩
  · exact .inl ⟨rfl, rfl⟩
  · refine .inr ⟨rfl, ?_⟩
    simp only [isBeyond?_now h hpast, isBeyond?_now h hnow, Bool.beq_eq_decide_eq, Int.compare_eq_gt,
      and_self]

lemma verdict_of_isBeyond?_eq {r : Range} {v : Value}
    (hlow : isBeyond? now v .lt r.minimum = isBeyond? past v .lt r.minimum)
    (hhigh : isBeyond? now v .gt r.maximum = isBeyond? past v .gt r.maximum) :
    r.verdict now v = r.verdict past v := by
  simp only [verdict, hlow, hhigh]

lemma verdict_of_not_comparable {r : Range} {v : Value}
    (h : isBeyond? now v .lt r.minimum = none ∨ isBeyond? now v .gt r.maximum = none) :
    r.verdict now v = .violation (.notComparable v) := by
  unfold verdict
  rcases h with h | h
  · rw [h]
  · rw [h]
    cases isBeyond? now v .lt r.minimum with
    | none => rfl
    | some => rfl

lemma lt_of_turns {r : Range} {below above : Bool} (h : t.moment? = some m)
    (hahead : (r.verdict past (.time t)).metadata.future.all now.isBefore = true)
    (hlow : isBeyond? past (.time t) .lt r.minimum = some below)
    (hhigh : isBeyond? past (.time t) .gt r.maximum = some above)
    (hturn : (r.minimum.any Bound.isNow && !(below || above) || r.maximum.any Bound.isNow && above) = true) :
    now.seconds < m.seconds := by
  rw [future_verdict hlow hhigh, turningPoint?_time hturn, h, Option.all_some] at hahead
  by_contra hm
  rw [not_ahead (Int.not_lt.mp hm) (TimeValue.nanos_of_moment? h)] at hahead
  cases hahead

lemma verdict_time {r : Range} (h : t.moment? = some m) (hpast : past.InCalendar)
    (hnow : now.InCalendar) (hle : past.seconds ≤ now.seconds)
    (hahead : (r.verdict past (.time t)).metadata.future.all now.isBefore = true) :
    r.verdict now (.time t) = r.verdict past (.time t) := by
  have htimestamp := TimeValue.timestamp_of_moment? h
  rcases isBeyond?_minimum htimestamp hpast hnow r.minimum with ⟨hmin, hlow⟩ | ⟨hmin, hlow, hlow'⟩
  · rcases isBeyond?_maximum htimestamp hpast hnow r.maximum with ⟨hmax, hhigh⟩ | ⟨hmax, hhigh, hhigh'⟩
    · exact verdict_of_isBeyond?_eq hlow hhigh
    · cases hbelow : isBeyond? past (.time t) .lt r.minimum with
      | none =>
        rw [verdict_of_not_comparable (.inl hbelow),
          verdict_of_not_comparable (.inl (hlow.trans hbelow))]
      | some below =>
        have hturn := lt_of_turns h hahead hbelow hhigh
        simp only [hmin, hmax, Bool.false_and, Bool.true_and, Bool.false_or, decide_eq_true_eq] at hturn
        refine verdict_of_isBeyond?_eq hlow ?_
        rw [hhigh, hhigh', Option.some.injEq, decide_eq_decide]
        omega
  · rcases isBeyond?_maximum htimestamp hpast hnow r.maximum with ⟨hmax, hhigh⟩ | ⟨hmax, hhigh, hhigh'⟩
    · cases habove : isBeyond? past (.time t) .gt r.maximum with
      | none =>
        rw [verdict_of_not_comparable (.inr habove),
          verdict_of_not_comparable (.inr (hhigh.trans habove))]
      | some above =>
        cases above with
        | true =>
          exact verdict_eq_of_isBeyond? hlow habove hlow' (hhigh.trans habove)
            (by rw [Bool.or_true, Bool.or_true]) fun _ => rfl
        | false =>
          have hturn := lt_of_turns h hahead hlow habove
          simp only [hmin, hmax, Bool.true_and, Bool.or_false, Bool.and_false, Bool.not_eq_true',
            decide_eq_false_iff_not] at hturn
          refine verdict_of_isBeyond?_eq ?_ hhigh
          rw [hlow, hlow', Option.some.injEq, decide_eq_decide]
          omega
    · have hturn := lt_of_turns h hahead hlow hhigh
      simp only [hmin, hmax, Bool.true_and, Bool.or_eq_true, Bool.not_eq_true', Bool.or_eq_false_iff,
        decide_eq_false_iff_not, decide_eq_true_eq] at hturn
      refine verdict_of_isBeyond?_eq ?_ ?_
      · rw [hlow, hlow', Option.some.injEq, decide_eq_decide]
        omega
      · rw [hhigh, hhigh', Option.some.injEq, decide_eq_decide]
        omega

theorem verdict_unexpired {r : Range} {v : Value}
    (h : Unexpired past now (some v) (r.verdict past v).metadata) :
    r.verdict now v = r.verdict past v := by
  rcases h with rfl | ⟨hle, hpast, hnow, hdated, hahead⟩
  · rfl
  · by_cases ht : ∃ t, v = .time t
    · obtain ⟨t, rfl⟩ := ht
      obtain ⟨m, hm⟩ := Option.isSome_iff_exists.mp (hdated _ rfl)
      exact verdict_time hm hpast hnow (seconds_le hle) hahead
    · have hne : ∀ t, v ≠ .time t := fun t hv => ht ⟨t, hv⟩
      exact verdict_of_isBeyond?_eq (isBeyond?_of_ne_time hne _ _ _ _) (isBeyond?_of_ne_time hne _ _ _ _)

end Range

end EntityAudit
