import EntityAudit.Proofs.Counting.Best
import EntityAudit.Proofs.Reordered.Store

namespace EntityAudit

def moveTo (σ : Equiv.Perm ℕ) (x : Statement × ℕ) : Statement × ℕ := (x.1, σ x.2)

lemma moveTo_injective (σ : Equiv.Perm ℕ) : (moveTo σ).Injective := by
  intro x y h
  obtain ⟨hs, hi⟩ := Prod.mk.inj h
  exact Prod.ext hs (σ.injective hi)

lemma filter_map_moveTo (σ : Equiv.Perm ℕ) (q : Statement → Bool) (l : List (Statement × ℕ)) :
    (l.map (moveTo σ)).filter (fun x => q x.1) = (l.filter fun x => q x.1).map (moveTo σ) := List.filter_map

structure Entity.MovedBy (σ : Equiv.Perm ℕ) (e f : Entity) : Prop where
  id_eq : f.id = e.id
  getElem? : ∀ i, f.statements.toList[σ i]? = e.statements.toList[i]?

def Context.moved (c : Context) (σ : Equiv.Perm ℕ) (f : Entity) : Context :=
  { c with entity := f, position := σ c.position }

namespace Entity.MovedBy

variable {σ : Equiv.Perm ℕ} {e f : Entity} (h : e.MovedBy σ f)

include h

lemma placed_perm : f.statements.placed.Perm (e.statements.placed.map (moveTo σ)) := by
  rw [List.perm_ext_iff_of_nodup (nodup_placed f) ((nodup_placed e).map (moveTo_injective σ))]
  rintro ⟨s, j⟩
  obtain ⟨i, rfl⟩ := σ.surjective j
  change (s, σ i) ∈ _ ↔ moveTo σ (s, i) ∈ _
  rw [List.mem_map_of_injective (moveTo_injective σ), StatementList.placed, StatementList.placed,
    List.mem_zipIdx_iff_getElem?, List.mem_zipIdx_iff_getElem?, h.getElem?]

lemma reordered : e.Reordered f := by
  refine ⟨h.id_eq, List.Perm.symm ?_⟩
  have hlist (e : Entity) : e.statements.placed.map Prod.fst = e.statements.toList := List.zipIdx_map_fst 0 _
  rw [← hlist e, ← hlist f]
  have hperm := h.placed_perm.map Prod.fst
  rwa [List.map_map] at hperm

lemma candidates_perm (grouping : Grouping) :
    (f.candidates grouping).Perm ((e.candidates grouping).map (moveTo σ)) := by
  have hfilter (q : Statement → Bool) : (f.statements.placed.filter fun x => q x.1).Perm
      ((e.statements.placed.filter fun x => q x.1).map (moveTo σ)) := by
    rw [← filter_map_moveTo]
    exact h.placed_perm.filter _
  cases grouping with
  | nonDeprecated => exact hfilter (!·.isDeprecated)
  | best =>
    have hbest : f.candidates .best = f.statements.placed.filter fun x => e.statements.isBest x.1 :=
      List.filter_congr fun x _ => h.reordered.isBest_eq x.1
    rw [hbest]
    exact hfilter e.statements.isBest

end Entity.MovedBy

namespace Context

variable {c : Context} {σ : Equiv.Perm ℕ} {f : Entity} {separators separators' : List PropertyId}
  {grouping : Grouping}

lemma any_position_map (l : List (Statement × ℕ)) (i : ℕ) :
    (l.map (moveTo σ)).any (·.2 == σ i) = l.any (·.2 == i) := by
  rw [List.any_map]
  refine congrArg l.any (funext fun x => ?_)
  simp [moveTo]

lemma statementGroup_eq : c.statementGroup grouping separators =
    let group := (c.entity.candidates grouping).filter fun x => sharesSeparators separators c.statement x.1
    if group.any (·.2 == c.position) then group else group ++ [(c.statement, c.position)] := by
  cases grouping <;> rfl

variable (h : c.entity.MovedBy σ f)

include h

lemma isBest_moved : (c.moved σ f).isBest = c.isBest := by
  have hperm : f.statements.best.Perm (c.entity.statements.best.map (moveTo σ)) := h.candidates_perm .best
  exact hperm.any_eq.trans (any_position_map _ _)

variable (hseparators : separators.Perm separators')

include hseparators

lemma statementGroup_moved (grouping : Grouping) : ((c.moved σ f).statementGroup grouping separators').Perm
    ((c.statementGroup grouping separators).map (moveTo σ)) := by
  have hshares (x : Statement × ℕ) :
      sharesSeparators separators' c.statement x.1 = sharesSeparators separators c.statement x.1 :=
    hseparators.all_eq.symm
  have hgroup := (h.candidates_perm grouping).filter fun x => sharesSeparators separators c.statement x.1
  rw [filter_map_moveTo σ (sharesSeparators separators c.statement)] at hgroup
  rw [statementGroup_eq, statementGroup_eq]
  -- The statement is added on both sides or on none, since no two positions become one.
  simp only [moved, hshares, hgroup.any_eq, any_position_map]
  split
  · exact hgroup
  · rw [List.map_append]
    exact hgroup.append_right _

lemma group_moved : ((c.moved σ f).group grouping separators').Perm (c.group grouping separators) := by
  obtain ⟨e, s, i, place⟩ := c
  cases place with
  | mainSnak =>
    have hperm := (statementGroup_moved h hseparators grouping).map (·.1.mainSnak)
    rw [List.map_map] at hperm
    exact hperm
  | qualifier snak => exact .refl _
  | reference r snak => exact .refl _

lemma countIn_moved : (c.moved σ f).countIn ((c.moved σ f).group grouping separators') =
    c.countIn (c.group grouping separators) :=
  (group_moved h hseparators).countP_eq fun s : Snak => decide (s.property = c.property)

lemma valueCount_moved : (c.moved σ f).valueCount separators' = c.valueCount separators := by
  have hcount : ((c.moved σ f).entity.statements.propertyCounts.get? (c.moved σ f).property).getD 0 =
      (c.entity.statements.propertyCounts.get? c.property).getD 0 := h.reordered.count_eq c.property
  have hrole : (c.moved σ f).role = c.role := rfl
  unfold valueCount
  rw [← hseparators.isEmpty_eq, hcount, countIn_moved h hseparators, hrole]

lemma bestCount_moved : (c.moved σ f).bestCount separators' = c.bestCount separators := by
  unfold bestCount
  rw [isBest_moved h, countIn_moved h hseparators]

end Context

end EntityAudit
