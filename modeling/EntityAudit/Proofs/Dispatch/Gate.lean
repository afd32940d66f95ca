import EntityAudit.Proofs.Outcome
import EntityAudit.Proofs.Rule.Foresight

/-!
Which results come from a rule. A constraint is put to its rule in the roles that it is meant for and
that the rule supports, unless it is deprecated or makes an exception of the entity. Only then is there
compliance, or a violation, which is reported by the weight of the constraint.
-/

namespace EntityAudit

def Weight.grade : Option Weight → Status
  | some .mandatory => .violation
  | some .suggestion => .suggestion
  | none => .warning

lemma Weight.grade_injective : Function.Injective Weight.grade := by
  rintro (_ | _ | _) (_ | _ | _) h
  all_goals first
    | rfl
    | cases h

def Status.unasked : List Status := [notInScope, deprecated, exception, todo]

lemma Weight.grade_ne (weight : Option Weight) :
    grade weight ≠ .compliance ∧ grade weight ∉ Status.unasked ∧ grade weight ≠ .badParameters := by
  rcases weight with _ | _ | _
  all_goals decide

def Rule.elsewhere (body : Services → Context → Constraint → Except ParameterError Verdict)
    (rule : Rule) : Rule :=
  { rule with verdict := fun s context c =>
      if rule.support context.role = .supported then rule.verdict s context c else body s context c }

lemma Parameters.weight_eq_none_iff {config : Config} {c : Constraint} :
    weight config c = .ok none ↔ c.parameters.contains config.parameters.constraintStatus = false := by
  simp only [weight]
  cases c.parameters.contains config.parameters.constraintStatus with
  | false => exact iff_of_true rfl rfl
  | true =>
    refine iff_of_false (fun hnone => ?_) Bool.noConfusion
    rw [if_pos rfl] at hnone
    obtain ⟨snak, -, hnone⟩ := bind_eq_ok_iff.mp hnone
    obtain ⟨id, -, hnone⟩ := bind_eq_ok_iff.mp hnone
    obtain ⟨weight, -, hnone⟩ := bind_eq_ok_iff.mp hnone
    cases hnone

namespace Auditor

variable (a : Auditor)

structure Consults (rule : Rule) (context : Context) (c : Constraint) : Prop where
  registered : a.catalog.get? c.type = some rule
  scope : ∃ scope, Parameters.scope a.config c = .ok scope ∧ context.role ∈ scope.getD rule.roles ∧
    ∀ role ∈ scope.getD [], rule.support role ≠ .notSupported
  current : c.deprecated = false
  exceptions : ∃ l, Parameters.exceptions a.config c = .ok l ∧ context.entity.id ∉ l
  supported : rule.support context.role = .supported

def Finds (context : Context) (c : Constraint) (status : Status) : Prop :=
  ∃ rule v, a.Consults rule context c ∧ rule.verdict a.services context c = .ok v ∧ v.status = status

def elsewhere (body : Services → Context → Constraint → Except ParameterError Verdict) : Auditor :=
  { a with catalog := a.catalog.mapValues (Rule.elsewhere body) }

variable {a} {rule : Rule} {context : Context} {c : Constraint} {v : Verdict}

lemma roles_eq_ok_iff {roles : List Role} :
    a.roles rule c = .ok roles ↔ ∃ scope, Parameters.scope a.config c = .ok scope ∧
      roles = scope.getD rule.roles ∧ ∀ role ∈ scope.getD [], rule.support role ≠ .notSupported := by
  unfold Auditor.roles
  rw [bind_eq_ok_iff]
  refine exists_congr fun scope => and_congr_right fun _ => ?_
  cases scope with
  | none => exact ⟨fun h => ⟨(Except.ok.inj h).symm, nofun⟩, fun h => congrArg Except.ok h.1.symm⟩
  | some named =>
    dsimp only [Option.getD_some]
    cases hfind : named.find? (rule.support · = .notSupported) with
    | none =>
      have hnamed : ∀ role ∈ named, rule.support role ≠ .notSupported := by
        simpa using List.find?_eq_none.mp hfind
      exact ⟨fun h => ⟨(Except.ok.inj h).symm, hnamed⟩, fun h => congrArg Except.ok h.1.symm⟩
    | some role =>
      have hrole : rule.support role = .notSupported := by simpa using List.find?_some hfind
      exact iff_of_false nofun fun h => h.2 role (List.mem_of_find?_eq_some hfind) hrole

lemma early_eq_none_iff {p : Prop} [Decidable p] {x : Parameters.Read (Option Verdict)} :
    (if p then .ok (some v) else x) = .ok none ↔ ¬ p ∧ x = .ok none := by
  by_cases h : p
  · simp [h]
  · simp [h]

lemma settled?_eq_none_iff : a.settled? rule context c = .ok none ↔
    (∃ roles, a.roles rule c = .ok roles ∧ context.role ∈ roles) ∧ c.deprecated = false ∧
      (∃ l, Parameters.exceptions a.config c = .ok l ∧ context.entity.id ∉ l) ∧
      rule.support context.role ≠ .todo := by
  simp only [settled?, bind_eq_ok_iff, pure, Except.pure, early_eq_none_iff]
  constructor
  · rintro ⟨roles, hroles, hrole, hcurrent, l, hl, hexception, htodo, -⟩
    exact ⟨⟨roles, hroles, not_not.mp hrole⟩, Bool.eq_false_iff.mpr hcurrent, ⟨l, hl, hexception⟩, htodo⟩
  · rintro ⟨⟨roles, hroles, hrole⟩, hcurrent, ⟨l, hl, hexception⟩, htodo⟩
    exact ⟨roles, hroles, not_not.mpr hrole, Bool.eq_false_iff.mp hcurrent, l, hl, hexception, htodo, trivial⟩

lemma verdict_eq (hrule : a.catalog.get? c.type = some rule) :
    a.verdict context c = match a.settled? rule context c with
      | .error e => badParameters e
      | .ok (some v) => v
      | .ok none =>
        match rule.verdict a.services context c with
        | .error e => badParameters e
        | .ok v => a.reported c v := by
  simp only [verdict, hrule, judge_eq]
  rcases a.settled? rule context c with e | _ | v
  · rfl
  · cases rule.verdict a.services context c with
    | error e => rfl
    | ok v => rfl
  · rfl

lemma status_of_settled (h : a.settled? rule context c = .ok (some v)) : v.status ∈ Status.unasked := by
  obtain ⟨roles, -, h⟩ := bind_eq_ok_iff.mp h
  split at h
  · cases h
    decide
  · split at h
    · cases h
      decide
    · obtain ⟨l, -, h⟩ := bind_eq_ok_iff.mp h
      split at h
      · cases h
        decide
      · split at h
        · cases h
          decide
        · cases h

lemma status_reported (c : Constraint) (v : Verdict) : (a.reported c v).status =
    if v.status = .violation then
      match Parameters.weight a.config c with
      | .ok weight => Weight.grade weight
      | .error _ => .badParameters
    else v.status := by
  by_cases h : v.status = .violation
  · rw [if_pos h]
    cases hweight : Parameters.weight a.config c with
    | error e =>
      rw [reported_of_error h hweight]
      rfl
    | ok weight =>
      simp only [reported, weigh, h, hweight, ne_eq, not_true_eq_false, if_false]
      rcases weight with _ | _ | _
      · rfl
      · exact h
      · rfl
  · rw [if_neg h, reported_of_ne h]

lemma status_reported_eq_compliance :
    (a.reported c v).status = .compliance ↔ v.status = .compliance := by
  rw [status_reported]
  split
  · rename_i hviolation
    rw [hviolation]
    refine iff_of_false ?_ Status.noConfusion
    cases Parameters.weight a.config c with
    | error e => exact Status.noConfusion
    | ok weight => exact (Weight.grade_ne weight).1
  · rfl

lemma status_reported_eq_grade {weight : Option Weight} (hplain : v.IsPlain) :
    (a.reported c v).status = Weight.grade weight ↔
      v.status = .violation ∧ Parameters.weight a.config c = .ok weight := by
  obtain ⟨hcompliance, hunasked, hparameters⟩ := Weight.grade_ne weight
  rw [status_reported]
  split
  · rename_i hviolation
    rw [and_iff_right hviolation]
    cases Parameters.weight a.config c with
    | error e => exact iff_of_false hparameters.symm nofun
    | ok weight' => rw [Weight.grade_injective.eq_iff, Except.ok.injEq]
  · rename_i hviolation
    refine iff_of_false ?_ fun h => hviolation h.1
    rcases hplain with h | h | h
    · exact h ▸ hcompliance.symm
    · exact absurd h hviolation
    · intro hgrade
      rw [← hgrade, h] at hunasked
      exact hunasked (by decide)

section OfTypes

variable {types : ConstraintTypes}

lemma consults_iff (hcatalog : a.catalog = Catalog.ofTypes types)
    (hrule : a.catalog.get? c.type = some rule) :
    a.Consults rule context c ↔ a.settled? rule context c = .ok none := by
  rw [settled?_eq_none_iff]
  constructor
  · rintro ⟨-, ⟨scope, hscope, hrole, hnamed⟩, hcurrent, hexceptions, hsupported⟩
    refine ⟨⟨_, roles_eq_ok_iff.mpr ⟨scope, hscope, rfl, hnamed⟩, hrole⟩, hcurrent, hexceptions, ?_⟩
    rw [hsupported]
    exact Support.noConfusion
  · rintro ⟨⟨roles, hroles, hrole⟩, hcurrent, hexceptions, htodo⟩
    obtain ⟨scope, hscope, rfl, hnamed⟩ := roles_eq_ok_iff.mp hroles
    have hmeaningful : rule.support context.role ≠ .notSupported := by
      cases scope with
      | none => exact Catalog.support_of_mem_roles (hcatalog ▸ hrule) hrole
      | some named => exact hnamed _ hrole
    refine ⟨hrule, ⟨scope, hscope, hrole, hnamed⟩, hcurrent, hexceptions, ?_⟩
    cases hsupport : rule.support context.role with
    | supported => rfl
    | todo => exact absurd hsupport htodo
    | notSupported => exact absurd hsupport hmeaningful

lemma verdict_of_consults (hcatalog : a.catalog = Catalog.ofTypes types) (h : a.Consults rule context c) :
    a.verdict context c = match rule.verdict a.services context c with
      | .error e => badParameters e
      | .ok v => a.reported c v := by
  rw [verdict_eq h.registered, (consults_iff hcatalog h.registered).mp h]

lemma status_eq_iff {status : Status} (hcatalog : a.catalog = Catalog.ofTypes types)
    (hasked : status ∉ Status.unasked) (hparameters : status ≠ .badParameters) :
    (a.verdict context c).status = status ↔ ∃ rule v, a.Consults rule context c ∧
      rule.verdict a.services context c = .ok v ∧ (a.reported c v).status = status := by
  constructor
  · rintro rfl
    cases hrule : a.catalog.get? c.type with
    | none =>
      refine absurd ?_ hasked
      simp only [verdict, hrule]
      decide
    | some rule =>
      rw [verdict_eq hrule] at hasked hparameters ⊢
      rcases hsettled : a.settled? rule context c with e | _ | v
      · simp only [hsettled] at hparameters
        exact absurd rfl hparameters
      · have hconsults := (consults_iff hcatalog hrule).mpr hsettled
        cases hv : rule.verdict a.services context c with
        | error e =>
          simp only [hsettled, hv] at hparameters
          exact absurd rfl hparameters
        | ok v => exact ⟨rule, v, hconsults, hv, rfl⟩
      · simp only [hsettled] at hasked
        exact absurd (status_of_settled hsettled) hasked
  · rintro ⟨rule, v, hconsults, hv, hstatus⟩
    rw [verdict_of_consults hcatalog hconsults, hv]
    exact hstatus

lemma verdict_elsewhere (hcatalog : a.catalog = Catalog.ofTypes types)
    (body : Services → Context → Constraint → Except ParameterError Verdict) :
    (a.elsewhere body).verdict context c = a.verdict context c := by
  have hget : (a.elsewhere body).catalog.get? c.type = (a.catalog.get? c.type).map (Rule.elsewhere body) :=
    SortedMap.get?_mapValues _ _ _
  cases hrule : a.catalog.get? c.type with
  | none =>
    rw [hrule] at hget
    simp only [verdict, hget, hrule, Option.map_none]
  | some rule =>
    rw [hrule] at hget
    have hgate : (a.elsewhere body).settled? (rule.elsewhere body) context c = a.settled? rule context c :=
      rfl
    rw [verdict_eq hget, verdict_eq hrule, hgate]
    rcases hsettled : a.settled? rule context c with e | _ | v
    · rfl
    · have hsupported := ((consults_iff hcatalog hrule).mpr hsettled).supported
      have hbody : (rule.elsewhere body).verdict (a.elsewhere body).services context c =
          rule.verdict a.services context c := if_pos hsupported
      dsimp only
      rw [hbody]
      rfl
    · rfl

lemma status_eq_compliance_iff (hcatalog : a.catalog = Catalog.ofTypes types) :
    (a.verdict context c).status = .compliance ↔ a.Finds context c .compliance := by
  rw [status_eq_iff hcatalog (by decide) Status.noConfusion]
  simp only [status_reported_eq_compliance]
  rfl

lemma status_eq_grade_iff (hcatalog : a.catalog = Catalog.ofTypes types) (weight : Option Weight) :
    (a.verdict context c).status = Weight.grade weight ↔
      a.Finds context c .violation ∧ Parameters.weight a.config c = .ok weight := by
  obtain ⟨-, hunasked, hparameters⟩ := Weight.grade_ne weight
  rw [status_eq_iff hcatalog hunasked hparameters]
  constructor
  · rintro ⟨rule, v, hconsults, hv, hstatus⟩
    have hplain := Catalog.isPlain_of_get? (hcatalog ▸ hconsults.registered) hv
    obtain ⟨hviolation, hweight⟩ := (status_reported_eq_grade hplain).mp hstatus
    exact ⟨⟨rule, v, hconsults, hv, hviolation⟩, hweight⟩
  · rintro ⟨⟨rule, v, hconsults, hv, hviolation⟩, hweight⟩
    have hplain := Catalog.isPlain_of_get? (hcatalog ▸ hconsults.registered) hv
    exact ⟨rule, v, hconsults, hv, (status_reported_eq_grade hplain).mpr ⟨hviolation, hweight⟩⟩

end OfTypes

lemma status_outcome : (a.outcome context c).status = (a.verdict context c).status := rfl

/-- No rule is asked in a role that it does not support, and every grade tells what passed the gate. -/
theorem outcome_gated (s : Services) (K : ConstraintSource) (types : ConstraintTypes) (context : Context)
    (c : Constraint) :
    let a : Auditor := ⟨s, K, Catalog.ofTypes types⟩
    (∀ body, (a.elsewhere body).outcome context c = a.outcome context c) ∧
      ((a.outcome context c).status = .compliance ↔ a.Finds context c .compliance) ∧
      ((a.outcome context c).status = .violation ↔
        a.Finds context c .violation ∧ Parameters.weight s.config c = .ok (some .mandatory)) ∧
      ((a.outcome context c).status = .warning ↔
        a.Finds context c .violation ∧
          c.parameters.contains s.config.parameters.constraintStatus = false) ∧
      ((a.outcome context c).status = .suggestion ↔
        a.Finds context c .violation ∧ Parameters.weight s.config c = .ok (some .suggestion)) := by
  intro a
  have hcatalog : a.catalog = Catalog.ofTypes types := rfl
  simp only [status_outcome]
  refine ⟨fun body => ?_, status_eq_compliance_iff hcatalog, status_eq_grade_iff hcatalog (some .mandatory),
    ?_, status_eq_grade_iff hcatalog (some .suggestion)⟩
  · exact congrArg (result context.cursor c) (verdict_elsewhere hcatalog body)
  · rw [← Parameters.weight_eq_none_iff]
    exact status_eq_grade_iff hcatalog none

end Auditor

end EntityAudit
