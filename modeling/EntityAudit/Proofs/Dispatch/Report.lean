import EntityAudit.Proofs.Dispatch.Gate

namespace EntityAudit

namespace Auditor

open Rule

variable {a b : Auditor} {rule : Rule} {context : Context} {c : Constraint}

lemma Matches.problems_eq (h : a.Matches b) (c : Constraint) : b.problems c = a.problems c := by
  simp only [problems, roles, h.config, h.catalog]

lemma problems_eq_nil_iff (hrule : a.catalog.get? c.type = some rule) :
    a.problems c = [] ↔ (∃ roles, a.roles rule c = .ok roles) ∧
      (∃ l, Parameters.exceptions a.config c = .ok l) ∧ (∃ w, Parameters.weight a.config c = .ok w) ∧
      rule.problems a.config c = [] := by
  simp only [problems, hrule, List.append_eq_nil_iff, problem_eq_nil_iff, and_assoc]

lemma settled?_of_ok {roles : List Role} {l : List EntityId} (context : Context)
    (hroles : a.roles rule c = .ok roles) (hexceptions : Parameters.exceptions a.config c = .ok l) :
    ∃ early, a.settled? rule context c = .ok early := by
  simp only [settled?, hroles, hexceptions, bind, Except.bind]
  split
  · exact ⟨_, rfl⟩
  · split
    · exact ⟨_, rfl⟩
    · split
      · exact ⟨_, rfl⟩
      · split
        · exact ⟨_, rfl⟩
        · exact ⟨_, rfl⟩

lemma status_reported_ne {v : Verdict} {weight : Option Weight} (hplain : v.IsPlain)
    (hweight : Parameters.weight a.config c = .ok weight) : (a.reported c v).status ≠ .badParameters := by
  rw [status_reported, hweight]
  split
  · exact (Weight.grade_ne weight).2.2
  · exact hplain.status_ne

lemma status_badParameters_iff {types : ConstraintTypes} (hcatalog : a.catalog = Catalog.ofTypes types)
    (hproblems : a.problems c = []) : (a.verdict context c).status = .badParameters ↔
      ∃ rule e, a.Consults rule context c ∧ rule.verdict a.services context c = .error e := by
  constructor
  · intro hstatus
    cases hrule : a.catalog.get? c.type with
    | none =>
      simp only [verdict, hrule] at hstatus
      cases hstatus
    | some rule =>
      obtain ⟨⟨roles, hroles⟩, ⟨l, hexceptions⟩, ⟨weight, hweight⟩, -⟩ :=
        (problems_eq_nil_iff hrule).mp hproblems
      obtain ⟨early, hsettled⟩ := settled?_of_ok context hroles hexceptions
      rw [verdict_eq hrule, hsettled] at hstatus
      cases early with
      | some v =>
        have hunasked := status_of_settled hsettled
        rw [hstatus] at hunasked
        exact absurd hunasked (by decide)
      | none =>
        have hconsults := (consults_iff hcatalog hrule).mpr hsettled
        cases hv : rule.verdict a.services context c with
        | error e => exact ⟨rule, e, hconsults, hv⟩
        | ok v =>
          have hplain := Catalog.isPlain_of_get? (hcatalog ▸ hrule) hv
          simp only [hv] at hstatus
          exact absurd hstatus (status_reported_ne hplain hweight)
  · rintro ⟨rule, e, hconsults, he⟩
    rw [verdict_of_consults hcatalog hconsults, he]
    rfl

/-- Where nothing is reported, only a range is found to be without the ends that a value asks for. -/
theorem unreported_iff_lacksEnds {s t : Services} {K L : ConstraintSource} {context : Context}
    {c : Constraint} (hconfig : t.config = s.config) (hproblems : (ofServices s K).problems c = []) :
    ((ofServices t L).outcome context c).status = .badParameters ↔
      (ofServices t L).Consults Rule.range context c ∧
        ∃ v, context.snak.value? = some v ∧ LacksEnds t.config c v := by
  have hcatalog : (ofServices t L).catalog = Catalog.ofTypes t.config.constraintTypes := rfl
  have hproblems' : (ofServices t L).problems c = [] :=
    ((matches_ofServices K L hconfig).problems_eq c).trans hproblems
  rw [status_outcome, status_badParameters_iff hcatalog hproblems']
  constructor
  · rintro ⟨rule, e, hconsults, he⟩
    have hnone : rule.problems t.config c = [] :=
      ((problems_eq_nil_iff hconsults.registered).mp hproblems').2.2.2
    rcases Catalog.foresees_of_get? hconsults.registered with hforesees | rfl
    · have hmem := (hforesees t context c).of_error he
      rw [hnone] at hmem
      cases hmem
    · exact ⟨hconsults, (range_error_iff hnone).mp ⟨e, he⟩⟩
  · rintro ⟨hconsults, hlacks⟩
    have hnone : Rule.range.problems t.config c = [] :=
      ((problems_eq_nil_iff hconsults.registered).mp hproblems').2.2.2
    obtain ⟨e, he⟩ := (range_error_iff hnone).mpr hlacks
    exact ⟨Rule.range, e, hconsults, he⟩

end Auditor

namespace Sample

def natural : Constraint where
  id := "P569$1"
  property := ⟨569⟩
  type := ⟨21510860⟩
  parameters := .ofSnaks [.value ⟨2313⟩ (.quantity { amount := 0 }), .noValue ⟨2312⟩]

def stating (v : Value) : Context :=
  ⟨.empty (.item ⟨1⟩), { guid := "Q1$1", mainSnak := .value ⟨569⟩ v }, 0, .mainSnak⟩

end Sample

namespace Auditor

open Sample

theorem amount_of_natural :
    let s := lookingAt []
    let t := lookingAt [married ⟨1⟩ ⟨2⟩]
    (ofServices s fun _ => []).problems natural = [] ∧
      ((ofServices t fun _ => []).outcome (stating (.quantity { amount := 5 })) natural).status ≠
        .badParameters := by
  have hproblems : (ofServices (lookingAt []) fun _ => []).problems natural = [] := by decide
  refine ⟨hproblems, fun hstatus => ?_⟩
  have hconfig : (lookingAt [married ⟨1⟩ ⟨2⟩]).config = (lookingAt []).config := rfl
  obtain ⟨-, v, hv, hlacks⟩ := (unreported_iff_lacksEnds hconfig hproblems).mp hstatus
  cases hv
  exact Bool.noConfusion hlacks.1

theorem time_of_natural :
    let a := ofServices (lookingAt []) fun _ => []
    a.problems natural = [] ∧
      (a.outcome (stating (.time { time := "+1952-03-11T00:00:00Z" })) natural).status =
        .badParameters := by
  decide

end Auditor

end EntityAudit
