import EntityAudit.Proofs.Rule.Clock

namespace EntityAudit

namespace Sample

def untilNow : Constraint where
  id := "P571$1"
  property := ⟨571⟩
  type := ⟨21510860⟩
  parameters := .ofSnaks [.value ⟨2310⟩ (.time { time := "+1900-01-01T00:00:00Z" }), .someValue ⟨2311⟩]

def begunOn (time : String) : Context :=
  ⟨.empty (.item ⟨1⟩), { guid := "Q1$1", mainSnak := .value ⟨571⟩ (.time { time }) }, 0, .mainSnak⟩

def checkedAt (seconds : Int) : Services := { config := {}, find? := fun _ => none, now := ⟨seconds, 0⟩ }

end Sample

namespace Range

variable {r : Range} {v : Value} {t : TimeValue} {x : Int} {past now : Moment}

def Contains (r : Range) (now : Moment) (v : Value) : Prop :=
  isBeyond? now v .lt r.minimum = some false ∧ isBeyond? now v .gt r.maximum = some false

def Overtaken (r : Range) (t : TimeValue) (past now : Moment) : Prop :=
  t.moment? = none ∧ ∃ x, t.timestamp = .ok x ∧
    (r.minimum.any Bound.isNow = true ∧ r.Contains past (.time t) ∧ x < now.seconds ∨
      r.maximum.any Bound.isNow = true ∧ past.seconds < x ∧ r.Contains now (.time t))

lemma outcome_verdict {below above : Bool} (hlow : isBeyond? now v .lt r.minimum = some below)
    (hhigh : isBeyond? now v .gt r.maximum = some above) :
    (r.verdict now v).status = (if below || above then .violation else .compliance) ∧
      (r.verdict now v).message = if below || above then some (.outOfRange v r) else none := by
  simp only [verdict, hlow, hhigh]
  cases r.turningPoint? v below above with
  | none => cases below || above <;> exact ⟨rfl, rfl⟩
  | some m => cases below || above <;> exact ⟨rfl, rfl⟩

lemma outcome_eq_iff {below above below' above' : Bool} (hlow : isBeyond? past v .lt r.minimum = some below)
    (hhigh : isBeyond? past v .gt r.maximum = some above)
    (hlow' : isBeyond? now v .lt r.minimum = some below')
    (hhigh' : isBeyond? now v .gt r.maximum = some above') :
    ((r.verdict now v).status = (r.verdict past v).status ∧
        (r.verdict now v).message = (r.verdict past v).message) ↔
      (below' || above') = (below || above) := by
  obtain ⟨hstatus, hmessage⟩ := outcome_verdict hlow hhigh
  obtain ⟨hstatus', hmessage'⟩ := outcome_verdict hlow' hhigh'
  rw [hstatus, hmessage, hstatus', hmessage']
  cases below' || above' <;> cases below || above <;> simp

lemma isBeyond?_of_unread {e : ReadError} (h : t.timestamp = .error e) (o : Ordering) (bound : Option Bound) :
    isBeyond? now (.time t) o bound = isBeyond? past (.time t) o bound := by
  cases bound with
  | none => rfl
  | some bound =>
    have hnone : (Value.time t).magnitude? = none := by simp only [Value.magnitude?, h]
    simp only [isBeyond?, Value.order?, hnone, Option.bind_eq_bind, Option.bind_none]

lemma beyond_turns {earliest latest below above below' above' : Bool} {a b : Int} (hab : a ≤ b)
    (hlow : earliest = false ∧ below' = below ∨
      earliest = true ∧ below = decide (x < a) ∧ below' = decide (x < b))
    (hhigh : latest = false ∧ above' = above ∨
      latest = true ∧ above = decide (a < x) ∧ above' = decide (b < x)) :
    (below' || above') = (below || above) ↔
      ¬ (earliest = true ∧ (below = false ∧ above = false) ∧ x < b ∨
        latest = true ∧ a < x ∧ below' = false ∧ above' = false) := by
  rw [Bool.eq_iff_iff]
  rcases hlow with ⟨rfl, rfl⟩ | ⟨rfl, rfl, rfl⟩
  · rcases hhigh with ⟨rfl, rfl⟩ | ⟨rfl, rfl, rfl⟩
    · simp
    · cases below' with
      | true => simp
      | false =>
        simp only [Bool.false_or, decide_eq_true_eq, decide_eq_false_iff_not, Bool.false_eq_true, false_and,
          true_and, false_or]
        omega
  · rcases hhigh with ⟨rfl, rfl⟩ | ⟨rfl, rfl, rfl⟩
    · cases above' with
      | true => simp
      | false =>
        simp only [Bool.or_false, decide_eq_true_eq, decide_eq_false_iff_not, Bool.false_eq_true, false_and,
          true_and, and_true, or_false]
        omega
    · simp only [Bool.or_eq_true, decide_eq_true_eq, decide_eq_false_iff_not, true_and]
      omega

lemma exists_of_turns {earliest a b : Bool} {before after : Option Bool}
    (h : earliest = false ∧ after = before ∨ earliest = true ∧ before = some a ∧ after = some b) :
    before = none ∧ after = none ∨ ∃ u u', before = some u ∧ after = some u' ∧
      (earliest = false ∧ u' = u ∨ earliest = true ∧ u = a ∧ u' = b) := by
  rcases h with ⟨hfixed, rfl⟩ | ⟨hnow, rfl, rfl⟩
  · cases after with
    | none => exact .inl ⟨rfl, rfl⟩
    | some u => exact .inr ⟨u, u, rfl, rfl, .inl ⟨hfixed, rfl⟩⟩
  · exact .inr ⟨a, b, rfl, rfl, .inr ⟨hnow, rfl, rfl⟩⟩

lemma Contains.comparable (h : r.Contains now v) :
    isBeyond? now v .lt r.minimum ≠ none ∧ isBeyond? now v .gt r.maximum ≠ none := by
  rw [h.1, h.2]
  exact ⟨Option.some_ne_none _, Option.some_ne_none _⟩

lemma lasts_of_not_comparable
    (h : isBeyond? past (.time t) .lt r.minimum = none ∧ isBeyond? now (.time t) .lt r.minimum = none ∨
      isBeyond? past (.time t) .gt r.maximum = none ∧ isBeyond? now (.time t) .gt r.maximum = none) :
    r.verdict now (.time t) = r.verdict past (.time t) ∧ ¬ r.Overtaken t past now := by
  constructor
  · rw [verdict_of_not_comparable (h.imp And.left And.left), verdict_of_not_comparable (h.imp And.right And.right)]
  · rintro ⟨-, x, -, ⟨-, hin, -⟩ | ⟨-, -, hin⟩⟩
    · exact h.elim (fun h => hin.comparable.1 h.1) (fun h => hin.comparable.2 h.1)
    · exact h.elim (fun h => hin.comparable.1 h.2) (fun h => hin.comparable.2 h.2)

lemma lasts_iff_of_undated (h : t.moment? = none) (hpast : past.InCalendar) (hnow : now.InCalendar)
    (hle : past.seconds ≤ now.seconds) :
    ((r.verdict now (.time t)).status = (r.verdict past (.time t)).status ∧
        (r.verdict now (.time t)).message = (r.verdict past (.time t)).message) ↔
      ¬ r.Overtaken t past now := by
  cases ht : t.timestamp with
  | error e =>
    have hsame : r.verdict now (.time t) = r.verdict past (.time t) :=
      verdict_of_isBeyond?_eq (isBeyond?_of_unread ht _ _) (isBeyond?_of_unread ht _ _)
    have hnot : ¬ r.Overtaken t past now := by
      rintro ⟨-, x, hx, -⟩
      rw [ht] at hx
      cases hx
    simp [hsame, hnot]
  | ok x =>
    rcases exists_of_turns (isBeyond?_minimum ht hpast hnow r.minimum) with
      hnone | ⟨below, below', hlow, hlow', hbelow⟩
    · obtain ⟨hsame, hnot⟩ := lasts_of_not_comparable (.inl hnone)
      simp [hsame, hnot]
    rcases exists_of_turns (isBeyond?_maximum ht hpast hnow r.maximum) with
      hnone | ⟨above, above', hhigh, hhigh', habove⟩
    · obtain ⟨hsame, hnot⟩ := lasts_of_not_comparable (.inr hnone)
      simp [hsame, hnot]
    rw [outcome_eq_iff hlow hhigh hlow' hhigh', beyond_turns hle hbelow habove]
    simp only [Overtaken, Contains, h, ht, hlow, hhigh, hlow', hhigh', Option.some.injEq, Except.ok.injEq,
      exists_eq_left', true_and]

open Sample

/-- A verdict on a date for which no moment is recorded, or one that is still to come, stays the same, unless
the calendar has no such day and the present has overtaken it. -/
theorem range_lasts_iff_not_overtaken {services : Services} {context : Context} {c : Constraint}
    (hvalue : context.snak.value? = some (.time t)) (hrange : Parameters.dateRange services.config c = .ok r)
    (hpast : past.InCalendar) (hnow : now.InCalendar) (hle : now.isBefore past = false) :
    ∃ before after, Rule.range.verdict { services with now := past } context c = .ok before ∧
      Rule.range.verdict { services with now := now } context c = .ok after ∧
      (before.metadata.future.all now.isBefore = true →
        (after.status = before.status ∧ after.message = before.message ↔ ¬ r.Overtaken t past now)) := by
  have hverdict : ∀ m, Rule.range.verdict { services with now := m } context c = .ok (r.verdict m (.time t)) := by
    intro m
    simp only [Rule.range, Context.requireValue, hvalue, hrange]
    rfl
  refine ⟨_, _, hverdict past, hverdict now, fun hahead => ?_⟩
  -- A recorded moment settles the days of the calendar; for other dates none is ever recorded.
  cases hmoment : t.moment? with
  | none => exact lasts_iff_of_undated hmoment hpast hnow (seconds_le hle)
  | some m =>
    have hnot : ¬ r.Overtaken t past now := by
      rintro ⟨hnone, -⟩
      rw [hmoment] at hnone
      cases hnone
    rw [verdict_time hmoment hpast hnow (seconds_le hle) hahead]
    simp [hnot]

theorem coming_day_too_late :
    let past := checkedAt 1704067200
    let now := checkedAt 1861920000
    let context := begunOn "+2030-06-01T00:00:00Z"
    ∃ before after, Rule.range.verdict past context untilNow = .ok before ∧
      Rule.range.verdict now context untilNow = .ok after ∧ before.metadata.future = some ⟨1906502400, 0⟩ ∧
        before.status = .violation ∧ after.status = before.status ∧ after.message = before.message := by
  intro past now context
  let r : Range := ⟨some (.value (.time { time := "+1900-01-01T00:00:00Z" })), some .now⟩
  have hrange : Parameters.dateRange past.config untilNow = .ok r := rfl
  have hoff : (Rule.range.verdict past context untilNow).toOption.map
      (fun v => (v.metadata.future, v.status)) = some (some ⟨1906502400, 0⟩, .violation) := by decide
  have hvalue : context.snak.value? = some (.time { time := "+2030-06-01T00:00:00Z" }) := rfl
  have hpast : past.now.InCalendar := ⟨by decide, by decide⟩
  have hnow : now.now.InCalendar := ⟨by decide, by decide⟩
  obtain ⟨before, after, hbefore, hafter, hlasts⟩ :=
    range_lasts_iff_not_overtaken hvalue hrange hpast hnow (by decide)
  have hfound : before.metadata.future = some ⟨1906502400, 0⟩ ∧ before.status = .violation := by
    change Rule.range.verdict past context untilNow = .ok before at hbefore
    rw [hbefore] at hoff
    exact Prod.mk.inj (Option.some.inj hoff)
  have hday : ¬ r.Overtaken { time := "+2030-06-01T00:00:00Z" } past.now now.now := by
    rintro ⟨hnone, -⟩
    exact absurd hnone (by decide)
  exact ⟨before, after, hbefore, hafter, hfound.1, hfound.2, (hlasts (by rw [hfound.1]; decide)).mpr hday⟩

theorem missing_day_turns :
    let context := begunOn "+2030-02-30T00:00:00Z"
    (Rule.range.verdict (checkedAt 1704067200) context untilNow).toOption.map
        (fun v => (v.status, v.metadata.future)) = some (.violation, none) ∧
      (Rule.range.verdict (checkedAt 1924992000) context untilNow).toOption.map
        (fun v => (v.status, v.metadata.future)) = some (.compliance, none) := by
  decide

end Range

end EntityAudit
