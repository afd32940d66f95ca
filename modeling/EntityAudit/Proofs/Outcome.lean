import EntityAudit.Auditor
import EntityAudit.Proofs.Rule.Trace

/-!
The result on one snak and one constraint. It stays as long as its metadata is confirmed, unless
it hides a violation: where the weight of the constraint cannot be read, the result on a violation
is that on wrong parameters, and what the violation was derived from is not recorded.
-/

namespace EntityAudit

namespace Auditor

variable (a : Auditor)

def settled? (rule : Rule) (context : Context) (c : Constraint) : Parameters.Read (Option Verdict) := do
  let roles ← a.roles rule c
  if context.role ∉ roles then return some { status := .notInScope }
  if c.deprecated then return some { status := .deprecated }
  let exceptions ← Parameters.exceptions a.config c
  if context.entity.id ∈ exceptions then return some { status := .exception }
  if rule.support context.role = .todo then return some .todo
  return none

def outcome (context : Context) (c : Constraint) : Result :=
  result context.cursor c (a.verdict context c)

/-- A violation is found and not reported, since the weight of the constraint cannot be read. -/
def Hides (context : Context) (c : Constraint) : Prop :=
  ∃ rule v e, a.catalog.get? c.type = some rule ∧ a.settled? rule context c = .ok none ∧
    rule.verdict a.services context c = .ok v ∧ v.status = .violation ∧
    Parameters.weight a.config c = .error e

def reported (c : Constraint) (v : Verdict) : Verdict :=
  match a.weigh c v with
  | .ok w => w
  | .error e => badParameters e

structure Matches (a b : Auditor) : Prop where
  config : b.config = a.config
  catalog : b.catalog = a.catalog

variable {a} {b : Auditor} {rule : Rule} {context : Context} {c : Constraint} {v : Verdict}

lemma judge_eq (rule : Rule) (context : Context) (c : Constraint) :
    a.judge rule context c = a.settled? rule context c >>= fun
      | some v => .ok v
      | none => rule.verdict a.services context c >>= a.weigh c := by
  unfold judge settled?
  cases a.roles rule c with
  | error e => rfl
  | ok roles =>
    simp only [bind, Except.bind]
    split
    · rfl
    · split
      · rfl
      · cases Parameters.exceptions a.config c with
        | error e => rfl
        | ok exceptions =>
          simp only
          split
          · rfl
          · split
            · rfl
            · rfl

lemma verdict_reported (hrule : a.catalog.get? c.type = some rule)
    (hsettled : a.settled? rule context c = .ok none)
    (hv : rule.verdict a.services context c = .ok v) : a.verdict context c = a.reported c v := by
  simp only [verdict, hrule, judge_eq, hsettled, hv]
  rfl

lemma hides_iff (hrule : a.catalog.get? c.type = some rule)
    (hsettled : a.settled? rule context c = .ok none)
    (hv : rule.verdict a.services context c = .ok v) :
    a.Hides context c ↔ v.status = .violation ∧ ∃ e, Parameters.weight a.config c = .error e := by
  constructor
  · rintro ⟨rule', v', e, hrule', -, hv', hstatus, hweight⟩
    obtain rfl := Option.some.inj (hrule.symm.trans hrule')
    obtain rfl := Except.ok.inj (hv.symm.trans hv')
    exact ⟨hstatus, e, hweight⟩
  · rintro ⟨hstatus, e, hweight⟩
    exact ⟨rule, v, e, hrule, hsettled, hv, hstatus, hweight⟩

lemma reported_of_ne (h : v.status ≠ .violation) : a.reported c v = v := by
  simp only [reported, weigh, h, ne_eq, not_false_eq_true, if_true]
  rfl

lemma reported_of_error {e : ParameterError} (h : v.status = .violation)
    (hweight : Parameters.weight a.config c = .error e) : a.reported c v = badParameters e := by
  simp only [reported, weigh, h, hweight, ne_eq, not_true_eq_false, if_false]
  rfl

lemma metadata_reported (h : ¬ (v.status = .violation ∧ ∃ e, Parameters.weight a.config c = .error e)) :
    (a.reported c v).metadata = v.metadata := by
  by_cases hstatus : v.status = .violation
  · cases hweight : Parameters.weight a.config c with
    | error e => exact absurd ⟨hstatus, e, hweight⟩ h
    | ok weight =>
      simp only [reported, weigh, hstatus, hweight, ne_eq, not_true_eq_false, if_false]
      rcases weight with _ | _ | _
      · rfl
      · rfl
      · rfl
  · rw [reported_of_ne hstatus]

lemma Matches.settled?_eq (h : a.Matches b) : b.settled? rule context c = a.settled? rule context c := by
  simp only [settled?, roles, h.config]

lemma Matches.reported_eq (h : a.Matches b) : b.reported c v = a.reported c v := by
  simp only [reported, weigh, h.config]

lemma outcome_congr (h : b.verdict context c = a.verdict context c) :
    b.outcome context c = a.outcome context c :=
  congrArg (result context.cursor c) h

lemma hides_reached (h : a.Hides context c) :
    ∃ rule, a.catalog.get? c.type = some rule ∧ a.settled? rule context c = .ok none := by
  obtain ⟨rule, -, -, hrule, hsettled, -⟩ := h
  exact ⟨rule, hrule, hsettled⟩

lemma hides_rule_ok (h : a.Hides context c) (hrule : a.catalog.get? c.type = some rule) :
    ∃ v, rule.verdict a.services context c = .ok v := by
  obtain ⟨rule', v, -, hrule', -, hv, -⟩ := h
  obtain rfl := Option.some.inj (hrule.symm.trans hrule')
  exact ⟨v, hv⟩

lemma Matches.verdict_of_unreached (h : a.Matches b)
    (hreached : ∀ rule, a.catalog.get? c.type = some rule → a.settled? rule context c ≠ .ok none) :
    b.verdict context c = a.verdict context c := by
  cases hrule : a.catalog.get? c.type with
  | none => simp only [verdict, h.catalog, hrule]
  | some rule =>
    simp only [verdict, h.catalog, hrule, judge_eq, h.settled?_eq]
    rcases hsettled : a.settled? rule context c with e | _ | v
    · rfl
    · exact absurd hsettled (hreached rule hrule)
    · rfl

lemma Matches.verdict_cases (h : a.Matches b) (htype : a.catalog.Traces a.config c.type) (context : Context) :
    b.verdict context c = a.verdict context c ∧ ¬ a.Hides context c ∨
      ∃ rule v w, a.catalog.get? c.type = some rule ∧ a.settled? rule context c = .ok none ∧
        rule.verdict a.services context c = .ok v ∧ rule.verdict b.services context c = .ok w ∧
        Follows a.services b.services context (.ok v) (.ok w) := by
  by_cases hreached : ∃ rule, a.catalog.get? c.type = some rule ∧ a.settled? rule context c = .ok none
  · obtain ⟨rule, hrule, hsettled⟩ := hreached
    have hfollows := htype rule hrule a.services b.services context c rfl h.config
    cases ha : rule.verdict a.services context c with
    | error e =>
      rw [ha] at hfollows
      cases hb : rule.verdict b.services context c with
      | ok w =>
        rw [hb] at hfollows
        cases hfollows
      | error e' =>
        rw [hb] at hfollows
        cases hfollows
        refine .inl ⟨?_, fun hhides => ?_⟩
        · simp only [verdict, h.catalog, hrule, judge_eq, h.settled?_eq, hsettled, ha, hb]
          rfl
        · obtain ⟨v, hv⟩ := hides_rule_ok hhides hrule
          rw [ha] at hv
          cases hv
    | ok v =>
      rw [ha] at hfollows
      cases hb : rule.verdict b.services context c with
      | error e =>
        rw [hb] at hfollows
        cases hfollows
      | ok w => exact .inr ⟨rule, v, w, hrule, hsettled, ha, hb, hb ▸ hfollows⟩
  · refine .inl ⟨h.verdict_of_unreached fun rule hrule hsettled => hreached ⟨rule, hrule, hsettled⟩, ?_⟩
    exact fun hhides => hreached (hides_reached hhides)

lemma verdict_of_hides (h : a.Hides context c) :
    ∃ e, Parameters.weight a.config c = .error e ∧ a.verdict context c = badParameters e := by
  obtain ⟨rule, v, e, hrule, hsettled, hv, hstatus, hweight⟩ := h
  exact ⟨e, hweight, (verdict_reported hrule hsettled hv).trans (reported_of_error hstatus hweight)⟩

lemma status_of_hides (h : a.Hides context c) : (a.outcome context c).status = .badParameters := by
  obtain ⟨e, -, hverdict⟩ := verdict_of_hides h
  simp only [outcome, result, hverdict]
  rfl

lemma Matches.status_ne_of_hides (h : a.Matches b) (htype : a.catalog.Traces a.config c.type)
    (ha : a.Hides context c) (hb : ¬ b.Hides context c) :
    (b.outcome context c).status ≠ .badParameters := by
  rcases h.verdict_cases htype context with ⟨-, hnot⟩ | ⟨rule, v, w, hrule, hsettled, hv, hw, hfollows⟩
  · exact absurd ha hnot
  · have hrule' : b.catalog.get? c.type = some rule := h.catalog ▸ hrule
    have hsettled' : b.settled? rule context c = .ok none := h.settled?_eq.trans hsettled
    obtain ⟨hstatus, e, hweight⟩ := (hides_iff hrule hsettled hv).mp ha
    have hne : w.status ≠ .violation := by
      intro hw'
      exact hb ((hides_iff hrule' hsettled' hw).mpr ⟨hw', e, by rw [h.config, hweight]⟩)
    have hverdict := (verdict_reported hrule' hsettled' hw).trans (reported_of_ne hne)
    simp only [outcome, result, hverdict]
    cases hfollows with
    | ok same status =>
      rcases status with rfl | hstatus'
      · exact absurd hstatus hne
      · exact hstatus'

lemma Matches.outcome_eq_iff (h : a.Matches b) (htype : a.catalog.Traces a.config c.type)
    (hconfirms : Confirms a.services b.services context (a.outcome context c).metadata) :
    b.outcome context c = a.outcome context c ↔ (a.Hides context c → b.Hides context c) := by
  by_cases ha : a.Hides context c
  · by_cases hb : b.Hides context c
    · obtain ⟨e, hweight, hverdict⟩ := verdict_of_hides ha
      obtain ⟨e', hweight', hverdict'⟩ := verdict_of_hides hb
      rw [h.config, hweight] at hweight'
      obtain rfl := Except.error.inj hweight'
      exact iff_of_true (outcome_congr (hverdict'.trans hverdict.symm)) fun _ => hb
    · refine iff_of_false (fun heq => ?_) fun himp => hb (himp ha)
      exact h.status_ne_of_hides htype ha hb (heq ▸ status_of_hides ha)
  · refine iff_of_true ?_ fun hhides => absurd hhides ha
    rcases h.verdict_cases htype context with ⟨heq, -⟩ | ⟨rule, v, w, hrule, hsettled, hv, hw, hfollows⟩
    · exact outcome_congr heq
    · have hrule' : b.catalog.get? c.type = some rule := h.catalog ▸ hrule
      have hsettled' : b.settled? rule context c = .ok none := h.settled?_eq.trans hsettled
      have hverdict := verdict_reported hrule hsettled hv
      have hverdict' := (verdict_reported hrule' hsettled' hw).trans h.reported_eq
      have hmeta : (a.outcome context c).metadata = v.metadata := by
        simp only [outcome, result, hverdict]
        exact metadata_reported fun hv' => ha ((hides_iff hrule hsettled hv).mpr hv')
      rw [hmeta] at hconfirms
      cases hfollows with
      | ok same status =>
        exact outcome_congr (hverdict'.trans ((congrArg (a.reported c) (same hconfirms)).trans hverdict.symm))

lemma matches_ofServices {s t : Services} (K L : ConstraintSource) (hconfig : t.config = s.config) :
    (ofServices s K).Matches (ofServices t L) where
  config := hconfig
  catalog := congrArg (fun config : Config => Catalog.ofTypes config.constraintTypes) hconfig

/-- The dependencies of a result are complete: as long as they look the same, so does the result. The
only exception is a violation that is hidden by a weight that cannot be read. -/
theorem outcome_eq_iff_of_agree {s t : Services} {K L : ConstraintSource} {context : Context}
    {c : Constraint} (hconfig : t.config = s.config) (hwalks : s.config.useGraphQueryForTypes = false)
    (hnow : t.now = s.now) (hunique : c.type ≠ s.config.constraintTypes.uniqueValue)
    (hlink : c.type ≠ s.config.constraintTypes.commonsLink)
    (hagree : AgreeOn s.find? t.find? ((ofServices s K).outcome context c).metadata) :
    (ofServices t L).outcome context c = (ofServices s K).outcome context c ↔
      ((ofServices s K).Hides context c → (ofServices t L).Hides context c) := by
  refine (matches_ofServices K L hconfig).outcome_eq_iff ?_ ⟨hagree, .same hnow⟩
  refine Catalog.traces_of_ne hunique hlink fun hgraph => ?_
  exact absurd (hwalks.symm.trans hgraph) Bool.false_ne_true

end Auditor

namespace Sample

def spouse : PropertyId := ⟨26⟩

def married (id other : ItemId) : Entity :=
  (Entity.empty id).add { guid := id.toString ++ "$1", mainSnak := .value spouse (.entity other) }

def symmetry (weights : List ItemId) : Constraint where
  id := "P26$1"
  property := spouse
  type := ⟨21510862⟩
  parameters := .ofSnaks (weights.map fun id => .value ⟨2316⟩ (.entity id))

def lookingAt (entities : List Entity) : Services where
  config := {}
  find? := (entities.foldl (fun s e => (s.save e).1) Store.empty).find?
  now := ⟨0, 0⟩

def context : Context :=
  ⟨(married ⟨1⟩ ⟨2⟩).withCounts, { guid := "Q1$1", mainSnak := .value spouse (.entity (.item ⟨2⟩)) }, 0,
    .mainSnak⟩

end Sample

namespace Auditor

open Sample

theorem outcome_of_symmetry :
    let s := lookingAt [married ⟨1⟩ ⟨2⟩, .empty (.item ⟨2⟩)]
    let t := lookingAt [married ⟨1⟩ ⟨2⟩, .empty (.item ⟨2⟩), .empty (.item ⟨3⟩)]
    let result (s : Services) := (ofServices s fun _ => []).outcome context (symmetry [])
    (result s).status = .warning ∧ (result s).metadata.entities.keys = [.item ⟨2⟩] ∧
      (result t = result s ↔ ((ofServices s fun _ => []).Hides context (symmetry []) →
        (ofServices t fun _ => []).Hides context (symmetry []))) := by
  refine ⟨by decide, by decide, ?_⟩
  refine outcome_eq_iff_of_agree rfl rfl rfl (by decide) (by decide) fun id hid => ?_
  have hmeta : ((ofServices (lookingAt [married ⟨1⟩ ⟨2⟩, .empty (.item ⟨2⟩)]) fun _ => []).outcome context
      (symmetry [])).metadata = .ofEntity (.item ⟨2⟩) := by decide
  rw [hmeta, Metadata.contains_ofEntity] at hid
  rw [hid]
  exact .of_eq rfl

theorem hidden_violation_unrecorded :
    let s := lookingAt [married ⟨1⟩ ⟨2⟩, .empty (.item ⟨2⟩)]
    let t := lookingAt [married ⟨1⟩ ⟨2⟩, married ⟨2⟩ ⟨1⟩]
    let result (s : Services) := (ofServices s fun _ => []).outcome context (symmetry [⟨5⟩])
    AgreeOn s.find? t.find? (result s).metadata ∧ (result s).status = .badParameters ∧
      (result t).status = .compliance := by
  refine ⟨fun id hid => ?_, by decide, by decide⟩
  have hmeta : ((ofServices (lookingAt [married ⟨1⟩ ⟨2⟩, .empty (.item ⟨2⟩)]) fun _ => []).outcome context
      (symmetry [⟨5⟩])).metadata = .blank := by decide
  rw [hmeta] at hid
  cases hid

end Auditor

end EntityAudit
