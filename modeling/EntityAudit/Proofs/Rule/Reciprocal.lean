import EntityAudit.Proofs.Counting.Best
import EntityAudit.Proofs.Rule.Opposite

namespace EntityAudit

/-- A statement of any rank has the target as its value. -/
def Entity.Links (e : Entity) (p : PropertyId) (target : EntityId) : Prop :=
  ∃ s ∈ e.statements.toList, s.mainSnak = .value p (.entity target)

lemma Snak.eq_link_iff {s : Snak} {p : PropertyId} {target : EntityId} :
    s = .value p (.entity target) ↔ s.property = p ∧ s.entity? = some target := by
  constructor
  · rintro rfl
    exact ⟨rfl, rfl⟩
  · rintro ⟨rfl, h⟩
    cases s with
    | value p v =>
      cases v with
      | entity id => rw [Option.some.inj h, Snak.property]
      | _ => cases h
    | someValue p => cases h
    | noValue p => cases h

lemma Entity.isSome_firstReferring?_iff {e : Entity} {p : PropertyId} {target : EntityId} :
    (e.statements.firstReferring? p target).isSome = true ↔ e.Links p target := by
  simp only [StatementList.firstReferring?, StatementList.ofProperty, List.find?_isSome, List.mem_filter,
    decide_eq_true_eq, beq_iff_eq, and_assoc, Links, Snak.eq_link_iff]
  rfl

lemma Context.requireEntity_of_link {context : Context} {p : PropertyId} {target : EntityId}
    (h : context.snak = .value p (.entity target)) : context.requireEntity = .ok target := by
  simp only [requireEntity, requireValue, h, Snak.value?]
  rfl

namespace Rule

variable {s : Services} {context : Context} {c : Constraint} {p q : PropertyId} {target : EntityId} {key : String}
  {a : Entity} {x : Statement × Nat}

lemma status_backReference_iff (h : context.requireEntity = .ok target) :
    (backReference s context c q key).status = .compliance ↔
      ∃ e, s.find? target = some e ∧ e.Links q context.entity.id := by
  rw [backReference, onTarget_of_ok h]
  cases hfind : s.find? target with
  | none =>
    refine iff_of_false Status.noConfusion ?_
    rintro ⟨e, he, -⟩
    cases he
  | some e =>
    rw [Option.elim_some]
    simp only [Option.some.injEq, exists_eq_left', ← Entity.isSome_firstReferring?_iff]
    change (Verdict.of _ _).status = .compliance ↔ _
    rw [Verdict.status_of]
    cases (e.statements.firstReferring? q context.entity.id).isSome <;> simp

lemma symmetric_gives_iff (h : x.1.mainSnak = .value p (.entity target)) :
    symmetric.Gives s (.ofMain a x) c .compliance ↔ ∃ e, s.find? target = some e ∧ e.Links p a.id := by
  have hproperty : (Context.ofMain a x).property = p := congrArg Snak.property h
  have hstatus : (backReference s (.ofMain a x) c p "symmetric").status = .compliance ↔
      ∃ e, s.find? target = some e ∧ e.Links p a.id :=
    status_backReference_iff (Context.requireEntity_of_link h)
  rw [← hstatus, ← hproperty]
  constructor
  · rintro ⟨v, hv, hcompliance⟩
    rwa [← Except.ok.inj hv] at hcompliance
  · exact fun hcompliance => ⟨_, rfl, hcompliance⟩

lemma inverse_gives_iff (h : x.1.mainSnak = .value p (.entity target))
    (hq : Parameters.property s.config c = .ok q) :
    inverse.Gives s (.ofMain a x) c .compliance ↔ ∃ e, s.find? target = some e ∧ e.Links q a.id := by
  have hverdict : inverse.verdict s (.ofMain a x) c =
      .ok ((backReference s (.ofMain a x) c q "inverse").withParameter "property" [q.toString]) := by
    simp only [inverse, hq]
    rfl
  have hstatus : (backReference s (.ofMain a x) c q "inverse").status = .compliance ↔
      ∃ e, s.find? target = some e ∧ e.Links q a.id :=
    status_backReference_iff (Context.requireEntity_of_link h)
  rw [← hstatus, Gives, hverdict]
  constructor
  · rintro ⟨v, hv, hcompliance⟩
    rwa [← Except.ok.inj hv] at hcompliance
  · exact fun hcompliance => ⟨_, rfl, hcompliance⟩

/-- A link of an entity is complied with exactly if the entity that it leads to, and that may be the same one, points
back. Then every link back is complied with too, in a property of its own where the constraints name each other's. -/
theorem backReferences_mutual (s : Services) (a b : Entity) (ha : s.find? a.id = some a)
    (hb : s.find? b.id = some b) (p q : PropertyId) :
    (∀ x ∈ a.statements.placed, x.1.mainSnak = .value p (.entity b.id) → ∀ c,
      (symmetric.Gives s (.ofMain a x) c .compliance ↔ b.Links p a.id) ∧
      (symmetric.Gives s (.ofMain a x) c .compliance →
        ∀ y ∈ b.statements.placed, y.1.mainSnak = .value p (.entity a.id) → ∀ d,
          symmetric.Gives s (.ofMain b y) d .compliance)) ∧
    ∀ x ∈ a.statements.placed, x.1.mainSnak = .value p (.entity b.id) → ∀ c,
      Parameters.property s.config c = .ok q →
      (inverse.Gives s (.ofMain a x) c .compliance ↔ b.Links q a.id) ∧
      (inverse.Gives s (.ofMain a x) c .compliance →
        ∀ y ∈ b.statements.placed, y.1.mainSnak = .value q (.entity a.id) → ∀ d,
          Parameters.property s.config d = .ok p → inverse.Gives s (.ofMain b y) d .compliance) := by
  have hlinks : ∀ x ∈ a.statements.placed, x.1.mainSnak = .value p (.entity b.id) → a.Links p b.id :=
    fun x hx hlink => ⟨x.1, List.fst_mem_of_mem_zipIdx hx, hlink⟩
  refine ⟨fun x hx hlink c => ⟨?_, fun _ y _ hback d => ?_⟩, fun x hx hlink c hc => ⟨?_, fun _ y _ hback d hd => ?_⟩⟩
  · rw [symmetric_gives_iff hlink]
    simp [hb]
  · exact (symmetric_gives_iff hback).mpr ⟨a, ha, hlinks x hx hlink⟩
  · rw [inverse_gives_iff hlink hc]
    simp [hb]
  · exact (inverse_gives_iff hback hd).mpr ⟨a, ha, hlinks x hx hlink⟩

end Rule

namespace Sample

def childOf : PropertyId := ⟨22⟩

def parentOf : PropertyId := ⟨40⟩

def relativeOf : PropertyId := ⟨1038⟩

def parenthood : Statement := { guid := "Q1$Q2", mainSnak := .value parentOf (.entity (.item ⟨2⟩)) }

def descent : Statement := { guid := "Q2$1", mainSnak := .value childOf (.entity (.item ⟨1⟩)), rank := .deprecated }

def kinship : Statement := { guid := "Q1$1", mainSnak := .value relativeOf (.entity (.item ⟨1⟩)) }

def father : Entity := ⟨.item ⟨1⟩, .ofList [parenthood, parenthood, kinship]⟩

def daughter : Entity := ⟨.item ⟨2⟩, .ofList [descent]⟩

def inverseOf (p other : PropertyId) : Constraint where
  id := p.toString ++ "$1"
  property := p
  type := ⟨21510855⟩
  parameters := .ofSnaks [.value ⟨2306⟩ (.entity (.property other))]

end Sample

namespace Rule

open Sample

theorem mutual_of_family :
    let s := lookingAt [father, daughter]
    inverse.Gives s (.ofMain father (parenthood, 1)) (inverseOf parentOf childOf) .compliance ∧
      inverse.Gives s (.ofMain daughter (descent, 0)) (inverseOf childOf parentOf) .compliance ∧
      symmetric.Gives s (.ofMain father (kinship, 2)) (symmetry []) .compliance := by
  intro s
  have hfather : s.find? father.id = some father := rfl
  have hdaughter : s.find? daughter.id = some daughter := rfl
  have hplaced (i : Nat) (t : Statement) (e : Entity) (h : e.statements.toList[i]? = some t) :
      (t, i) ∈ e.statements.placed := List.mem_zipIdx_iff_getElem?.mpr h
  obtain ⟨-, hinverse⟩ := backReferences_mutual s father daughter hfather hdaughter parentOf childOf
  obtain ⟨hsymmetric, -⟩ := backReferences_mutual s father father hfather hfather relativeOf relativeOf
  obtain ⟨hlinks, hmutual⟩ := hinverse _ (hplaced 1 parenthood father rfl) rfl (inverseOf parentOf childOf) rfl
  have hcomplies := hlinks.mpr ⟨descent, List.mem_singleton_self descent, rfl⟩
  refine ⟨hcomplies, ?_, ?_⟩
  · exact hmutual hcomplies _ (hplaced 0 descent daughter rfl) rfl (inverseOf childOf parentOf) rfl
  · have hkinship := hplaced 2 kinship father rfl
    exact (hsymmetric _ hkinship rfl (symmetry [])).1.mpr ⟨kinship, List.fst_mem_of_mem_zipIdx hkinship, rfl⟩

end Rule

end EntityAudit
