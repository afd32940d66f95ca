import EntityAudit.Membership
import EntityAudit.Proofs.Deprecation.Store

namespace EntityAudit.Membership

variable (config : Config) (f : EntityId → Option Entity) (classes : List ItemId)

lemma level_shown (visited next frontier : List ItemId) :
    level config (shownBy f) classes visited next frontier = level config f classes visited next frontier := by
  fun_induction level config f classes visited next frontier with
  | case1 => rfl
  | case2 visited next c frontier hc ih => rw [level, if_pos hc, ih]
  | case3 visited next c frontier hc hf ih =>
    rw [level, if_neg hc, shownBy, hf]
    exact ih
  | case4 visited next c frontier hc e hf parents hfound =>
    rw [level, if_neg hc, shownBy, hf, Option.map_some]
    simp only [Entity.relatedItems_shown]
    exact if_pos hfound
  | case5 visited next c frontier hc e hf parents hfound ih =>
    rw [level, if_neg hc, shownBy, hf, Option.map_some]
    simp only [Entity.relatedItems_shown]
    exact (if_neg hfound).trans ih

lemma walk_shown (visited : List ItemId) (levels : Nat) (frontier : List ItemId) :
    walk config (shownBy f) classes visited levels frontier = walk config f classes visited levels frontier := by
  induction levels generalizing visited frontier with
  | zero => rfl
  | succ levels ih =>
    cases frontier with
    | nil => rfl
    | cons c frontier => simp only [walk, level_shown, ih]

lemma isSubclass_shown (start : ItemId) :
    isSubclass config (shownBy f) classes start = isSubclass config f classes start := by
  rw [isSubclass, walk_shown, isSubclass]

lemma anySubclass_shown (known : Metadata) (starts : List ItemId) :
    anySubclass config (shownBy f) classes known starts = anySubclass config f classes known starts := by
  induction starts generalizing known with
  | nil => rfl
  | cons c starts ih => simp only [anySubclass, isSubclass_shown, ih]

lemma byWalk_shown (e : Entity) (relations : List PropertyId) :
    byWalk config (shownBy f) classes e.shown relations = byWalk config f classes e relations := by
  simp only [byWalk, Entity.relatedItems_shown, anySubclass_shown]

lemma check_shown (graph : Option GraphQuery) (e : Entity) (relation : Relation) :
    check config (shownBy f) classes graph e.shown relation = check config f classes graph e relation := by
  unfold check
  rw [byWalk_shown]
  rfl

end EntityAudit.Membership
