import EntityAudit.Proofs.Pairs

namespace EntityAudit.Sample

def remarried : Auditor :=
  .ofServices
    (lookingAt [(married ⟨1⟩ ⟨2⟩).add { guid := "Q1$2", mainSnak := .value spouse (.entity (.item ⟨3⟩)) }])
    fun p => if p = spouse then [symmetry [], { symmetry [] with id := "P26$2", deprecated := true }] else []

end EntityAudit.Sample

namespace EntityAudit.Auditor

variable {a : Auditor} {id : EntityId}

lemma filter_entityResults (q : Result → Bool) :
    (a.entityResults id none none).filter q =
      ((a.pairs id).filter fun p => q (a.outcomeOf p)).map a.outcomeOf := by
  rw [entityResults_all, List.filter_map]
  rfl

lemma claimResults_of_entityOfGuid {guid : String} (h : Statement.entityOfGuid guid = .ok id)
    (constraintIds : Option (List String)) :
    a.claimResults guid constraintIds = a.entityResults id (some [guid]) constraintIds := by
  simp only [claimResults, h]

/-- Restricting a check to some statements and some constraints is choosing among the results of the whole
check, in their order. A check of a single statement chooses those with its identifier. -/
theorem narrowed_eq_filter (a : Auditor) (id : EntityId) (guids constraintIds : Option (List String)) :
    a.entityResults id guids constraintIds = (a.entityResults id none none).filter (fun r =>
        guids.all (·.contains r.cursor.guid) && constraintIds.all (·.contains r.constraint.id)) ∧
      ∀ guid, Statement.entityOfGuid guid = .ok id →
        a.claimResults guid constraintIds = (a.entityResults id none constraintIds).filter fun r =>
          r.cursor.guid = guid := by
  constructor
  · rw [filter_entityResults, entityResults_eq_filter]
    exact congrArg (List.map a.outcomeOf) (List.filter_congr fun p _ => Bool.and_comm _ _)
  · intro guid hguid
    rw [claimResults_of_entityOfGuid hguid, entityResults_eq_filter, entityResults_eq, List.filter_map,
      List.filter_filter]
    apply congrArg (List.map a.outcomeOf)
    apply List.filter_congr
    intro p _
    have hguid : [guid].contains p.1.statement.guid = decide (p.1.statement.guid = guid) := by
      rw [Bool.eq_iff_iff]
      simp
    rw [Option.all_some, hguid, Bool.and_comm]
    rfl

theorem narrowed_of_remarried :
    let a := Sample.remarried
    Statement.entityOfGuid "Q1$2" = .ok (.item ⟨1⟩) ∧ (a.entityResults (.item ⟨1⟩) none none).length = 4 ∧
      (a.claimResults "Q1$2" (some ["P26$1"])).length = 1 ∧
      a.claimResults "Q1$2" (some ["P26$1"]) =
        (a.entityResults (.item ⟨1⟩) none (some ["P26$1"])).filter fun r => r.cursor.guid = "Q1$2" := by
  have hguid : Statement.entityOfGuid "Q1$2" = .ok (.item ⟨1⟩) := by rfl
  refine ⟨hguid, by decide, by decide, ?_⟩
  exact (narrowed_eq_filter Sample.remarried (.item ⟨1⟩) none (some ["P26$1"])).2 "Q1$2" hguid

end EntityAudit.Auditor
