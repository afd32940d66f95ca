import EntityAudit.Proofs.Counting.Group
import Mathlib.Data.List.Nodup
import Mathlib.Data.List.Perm.Subperm

namespace EntityAudit

def Rank.level : Rank → Nat
  | preferred => 2
  | normal => 1
  | deprecated => 0

def StatementList.BestRanked (l : StatementList) (s : Statement) : Prop :=
  s.rank ≠ .deprecated ∧ ∀ t ∈ l.toList, t.property = s.property → t.rank.level ≤ s.rank.level

def Rule.Gives (rule : Rule) (s : Services) (context : Context) (c : Constraint) (status : Status) : Prop :=
  ∃ v, rule.verdict s context c = .ok v ∧ v.status = status

namespace Constraint

def separatedBy (config : Config) (c : Constraint) (separators : List PropertyId) : Constraint :=
  let p := config.parameters.separator
  { c with parameters := c.parameters.insert p (separators.map fun q => .value p (.entity (.property q))) }

lemma separators_separatedBy (config : Config) (c : Constraint) (separators : List PropertyId) :
    Parameters.separators config (c.separatedBy config separators) = .ok separators := by
  have hof : (c.separatedBy config separators).parameters.of config.parameters.separator =
      separators.map fun q => .value config.parameters.separator (.entity (.property q)) := by
    simp [ParameterSnaks.of, separatedBy]
  have hread : Parameters.propertyOf config.parameters.separator ∘
      (fun q => Snak.value config.parameters.separator (.entity (.property q))) =
        fun q => (pure q : Parameters.Read PropertyId) := rfl
  rw [Parameters.separators, hof, List.mapM_map, hread, List.mapM_pure, List.map_id']
  rfl

end Constraint

lemma one_lt_countP_iff {α : Type} {l : List α} {q : α → Bool} {a : α} (hl : l.Nodup) (ha : a ∈ l)
    (hqa : q a = true) :
    1 < l.countP q ↔ ∃ b ∈ l, b ≠ a ∧ q b = true := by
  classical
  rw [List.countP_eq_length_filter]
  constructor
  · intro h
    by_contra hnone
    have hall : ∀ b ∈ l.filter q, b = a := fun b hb => by
      by_contra hne
      exact hnone ⟨b, (List.mem_filter.mp hb).1, hne, (List.mem_filter.mp hb).2⟩
    have hnodup : (l.filter q).Nodup := hl.filter q
    rw [List.eq_replicate_of_mem hall, List.nodup_replicate] at hnodup
    omega
  · rintro ⟨b, hb, hne, hqb⟩
    have hpair : [b, a].Nodup := by simp [hne]
    have hsub : [b, a] ⊆ l.filter q := by simp [ha, hb, hqa, hqb]
    exact (hpair.subperm hsub).length_le

namespace StatementList

variable {l : StatementList} {s : Statement}

lemma isBest_iff : l.isBest s = true ↔ l.BestRanked s := by
  unfold isBest BestRanked
  cases hrank : s.rank with
  | preferred =>
    refine iff_of_true rfl ⟨Rank.noConfusion, fun t _ _ => ?_⟩
    cases t.rank <;> decide
  | normal =>
    have hlevel (r : Rank) : r.level ≤ Rank.normal.level ↔ r ≠ .preferred := by
      cases r <;> decide
    simp [hlevel, hasPreferred]
  | deprecated => simp

end StatementList

namespace Rule

variable {s : Services} {context : Context} {c : Constraint} {separators : List PropertyId} {status : Status}

lemma onCount_gives_iff {support : Role → Support} {roles : List Role} {count : Context → List PropertyId → Nat}
    {allowed : Nat → Bool} {message : PropertyId → Nat → Message}
    (h : Parameters.separators s.config c = .ok separators) :
    (onCount support roles count allowed message).Gives s context c status ↔
      (if allowed (count context separators) then .compliance else .violation) = status := by
  have hverdict : ∃ v, (onCount support roles count allowed message).verdict s context c = .ok v ∧
      v.status = if allowed (count context separators) then .compliance else .violation := by
    simp only [onCount, h]
    refine ⟨_, rfl, ?_⟩
    cases allowed (count context separators) with
    | true => rfl
    | false => rfl
  obtain ⟨v, hv, hstatus⟩ := hverdict
  rw [Gives, hv]
  constructor
  · rintro ⟨w, hw, rfl⟩
    rw [← Except.ok.inj hw, hstatus]
  · rintro rfl
    exact ⟨v, rfl, hstatus⟩

lemma singleValue_gives_compliance (h : Parameters.separators s.config c = .ok separators) :
    singleValue.Gives s context c .compliance ↔ context.valueCount separators ≤ 1 := by
  rw [singleValue, onCount_gives_iff h]
  simp

lemma singleBestValue_gives_compliance (h : Parameters.separators s.config c = .ok separators) :
    singleBestValue.Gives s context c .compliance ↔ context.bestCount separators ≤ 1 := by
  rw [singleBestValue, onCount_gives_iff h]
  simp

lemma singleBestValue_gives_violation (h : Parameters.separators s.config c = .ok separators) :
    singleBestValue.Gives s context c .violation ↔ 1 < context.bestCount separators := by
  rw [singleBestValue, onCount_gives_iff h]
  simp

end Rule

namespace Entity

variable {e : Entity} {x : Statement × Nat} {p : PropertyId} {separators : List PropertyId}

lemma isBest_ofMain (hx : x ∈ e.statements.placed) :
    (Context.ofMain e x).isBest = true ↔ e.statements.BestRanked x.1 := by
  rw [← StatementList.isBest_iff]
  refine List.any_eq_true.trans ⟨?_, fun h => ⟨x, List.mem_filter.mpr ⟨hx, h⟩, beq_self_eq_true x.2⟩⟩
  rintro ⟨y, hy, hposition⟩
  obtain ⟨hy, hbest⟩ := List.mem_filter.mp hy
  rwa [← eq_of_position hy hx (beq_iff_eq.mp hposition)]

lemma nodup_placed (e : Entity) : e.statements.placed.Nodup := by
  apply List.Nodup.of_map Prod.snd
  rw [StatementList.placed, List.zipIdx_map_snd]
  exact List.nodup_range'

lemma one_lt_bestCount_iff (hx : x ∈ e.statements.placed) :
    1 < (Context.ofMain e x).bestCount separators ↔ e.statements.BestRanked x.1 ∧
      ∃ y ∈ e.statements.placed, y.2 ≠ x.2 ∧ SameGroup separators x.1 y.1 ∧ e.statements.BestRanked y.1 := by
  by_cases hbest : e.statements.BestRanked x.1
  · have hcandidate : x ∈ e.candidates .best :=
      List.mem_filter.mpr ⟨hx, StatementList.isBest_iff.mpr hbest⟩
    have hnodup : (e.candidates .best).Nodup := (nodup_placed e).filter _
    have hself : decide (SameGroup separators x.1 x.1) = true :=
      decide_eq_true ((sameGroup_equivalence separators).refl x.1)
    rw [Context.bestCount, if_pos ((isBest_ofMain hx).mpr hbest), countIn_group hcandidate,
      one_lt_countP_iff hnodup hcandidate hself, and_iff_right hbest]
    constructor
    · rintro ⟨y, hy, hne, hgroup⟩
      obtain ⟨hy, hy'⟩ := List.mem_filter.mp hy
      exact ⟨y, hy, fun h => hne (eq_of_position hy hx h), of_decide_eq_true hgroup,
        StatementList.isBest_iff.mp hy'⟩
    · rintro ⟨y, hy, hne, hgroup, hy'⟩
      exact ⟨y, List.mem_filter.mpr ⟨hy, StatementList.isBest_iff.mpr hy'⟩, fun h => hne (congrArg Prod.snd h),
        decide_eq_true hgroup⟩
  · have hnot : ¬ (Context.ofMain e x).isBest = true := fun h => hbest ((isBest_ofMain hx).mp h)
    rw [Context.bestCount, if_neg hnot]
    exact iff_of_false (by decide) fun h => hbest h.1

lemma bestCount_le_valueCount (hx : x ∈ e.statements.placed) :
    (Context.ofMain e x).bestCount separators ≤ (Context.ofMain e x).valueCount separators := by
  by_cases hbest : (Context.ofMain e x).isBest = true
  · have hranked := (isBest_ofMain hx).mp hbest
    have hvalue : x ∈ e.candidates .nonDeprecated :=
      List.mem_filter.mpr ⟨hx, by simpa [Statement.isDeprecated] using hranked.1⟩
    have hcandidate : x ∈ e.candidates .best :=
      List.mem_filter.mpr ⟨hx, StatementList.isBest_iff.mpr hranked⟩
    rw [Context.bestCount, if_pos hbest, countIn_group hcandidate, valueCount_eq_countIn hvalue,
      countIn_group hvalue]
    refine List.Sublist.countP_le ?_
    refine List.monotone_filter_right _ fun y hy => ?_
    simpa [Statement.isDeprecated] using (StatementList.isBest_iff.mp hy).1
  · rw [Context.bestCount, if_neg hbest]
    exact Nat.zero_le _

lemma preferred_of_bestRanked {s t : Statement} (hs : e.statements.BestRanked s) (ht : t ∈ e.statements.toList)
    (hproperty : t.property = s.property) (hrank : t.rank = .preferred) : s.rank = .preferred := by
  have hlevel := hs.2 t ht hproperty
  rw [hrank] at hlevel
  revert hlevel
  cases s.rank <;> decide

lemma bestCount_le_one (hone : e.statements.toList.countP (fun t => t.property = p ∧ t.rank = .preferred) = 1)
    (hx : x ∈ e.statements.placed) (hp : x.1.property = p) : (Context.ofMain e x).bestCount separators ≤ 1 := by
  by_contra hmany
  obtain ⟨hbest, y, hy, hne, hgroup, hbest'⟩ := (one_lt_bestCount_iff hx).mp (Nat.lt_of_not_le hmany)
  obtain ⟨t, ht, hpreferred⟩ := List.countP_pos_iff.mp (hone ▸ Nat.one_pos)
  obtain ⟨htp, hpreferred⟩ := of_decide_eq_true hpreferred
  have hyp : y.1.property = p := hgroup.1.symm.trans hp
  have hplaced : e.statements.placed.map Prod.fst = e.statements.toList := List.zipIdx_map_fst 0 _
  rw [← hplaced, List.countP_map] at hone
  have hx' := preferred_of_bestRanked hbest ht (htp.trans hp.symm) hpreferred
  have hy' := preferred_of_bestRanked hbest' ht (htp.trans hyp.symm) hpreferred
  refine absurd hone (Nat.ne_of_gt ((one_lt_countP_iff (nodup_placed e) hx ?_).mpr ⟨y, hy, ?_, ?_⟩))
  · exact decide_eq_true ⟨hp, hx'⟩
  · exact fun h => hne (congrArg Prod.snd h)
  · exact decide_eq_true ⟨hyp, hy'⟩

end Entity

namespace Rule

/-- The rule about single best values is violated by a statement of the highest rank that shares its group with
another one. It is complied with where there is a single value, and where one statement is preferred. -/
theorem bestValue_violated_iff (s : Services) (e : Entity) (c : Constraint) (separators : List PropertyId)
    (h : Parameters.separators s.config c = .ok separators) :
    (∀ x ∈ e.statements.placed, singleBestValue.Gives s (.ofMain e x) c .violation ↔
      e.statements.BestRanked x.1 ∧ ∃ y ∈ e.statements.placed, y.2 ≠ x.2 ∧ SameGroup separators x.1 y.1 ∧
        e.statements.BestRanked y.1) ∧
    (∀ x ∈ e.statements.placed, ∀ d, Parameters.separators s.config d = .ok separators →
      singleValue.Gives s (.ofMain e x) d .compliance → singleBestValue.Gives s (.ofMain e x) c .compliance) ∧
    ∀ p, e.statements.toList.countP (fun t => t.property = p ∧ t.rank = .preferred) = 1 →
      ∀ x ∈ e.statements.placed, x.1.property = p → singleBestValue.Gives s (.ofMain e x) c .compliance := by
  refine ⟨fun x hx => ?_, fun x hx d hd hsingle => ?_, fun p hone x hx hp => ?_⟩
  · rw [singleBestValue_gives_violation h, Entity.one_lt_bestCount_iff hx]
  · rw [singleBestValue_gives_compliance h]
    exact (Entity.bestCount_le_valueCount hx).trans ((singleValue_gives_compliance hd).mp hsingle)
  · rw [singleBestValue_gives_compliance h]
    exact Entity.bestCount_le_one hone hx hp

end Rule

namespace Sample

def rivals : Entity where
  id := .item ⟨1⟩
  statements := .ofList [held .normal 2 [], held .normal 3 [.someValue start], held .normal 4 [.someValue start]]

def oneOffice : Constraint :=
  ({ id := "P39$1", property := office, type := ⟨52060874⟩ } : Constraint).separatedBy {} [start]

end Sample

namespace Rule

open Sample

theorem bestValue_of_rivals :
    let s : Services := { config := {}, find? := fun _ => none, now := ⟨0, 0⟩ }
    singleBestValue.Gives s (.ofMain rivals (held .normal 3 [.someValue start], 1)) oneOffice .violation ∧
      singleBestValue.Gives s (.ofMain rivals (held .normal 2 [], 0)) oneOffice .compliance ∧
      singleBestValue.Gives s (.ofMain official (held .normal 2 [], 0)) oneOffice .compliance := by
  intro s
  have hread : Parameters.separators s.config oneOffice = .ok [start] := Constraint.separators_separatedBy _ _ _
  have hlevel : ∀ t ∈ rivals.statements.toList, t.rank.level ≤ 1 := by decide
  have hbest (n : UInt64) (qualifiers : List Snak) :
      rivals.statements.BestRanked (held .normal n qualifiers) := ⟨Rank.noConfusion, fun t ht _ => hlevel t ht⟩
  obtain ⟨hviolated, hsingle, -⟩ := bestValue_violated_iff s rivals oneOffice [start] hread
  obtain ⟨-, -, hone⟩ := bestValue_violated_iff s official oneOffice [start] hread
  refine ⟨(hviolated _ ?_).mpr ⟨hbest 3 _, (held .normal 4 [.someValue start], 2), ?_, by decide, ?_, hbest 4 _⟩,
    hsingle _ ?_ oneOffice hread ?_, hone office (by decide) _ ?_ rfl⟩
  · exact List.mem_zipIdx_iff_getElem?.mpr rfl
  · exact List.mem_zipIdx_iff_getElem?.mpr rfl
  · exact ⟨rfl, fun p hp => List.mem_singleton.mp hp ▸ rfl⟩
  · exact List.mem_zipIdx_iff_getElem?.mpr rfl
  · rw [singleValue_gives_compliance hread]
    decide +kernel
  · exact List.mem_zipIdx_iff_getElem?.mpr rfl

end Rule

end EntityAudit
