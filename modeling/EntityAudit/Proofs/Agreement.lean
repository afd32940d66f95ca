import EntityAudit.Membership
import EntityAudit.Proofs.Metadata

/-!
Two look-ups that agree on the entities of some metadata. The walk up the classes gives the same
answer by both, since every class that it looks at is part of its metadata.
-/

namespace EntityAudit

def AgreeAt (f g : EntityId → Option Entity) (id : EntityId) : Prop :=
  (g id).map Entity.withCounts = (f id).map Entity.withCounts

def AgreeOn (f g : EntityId → Option Entity) (m : Metadata) : Prop :=
  ∀ id, m.entities.contains id = true → AgreeAt f g id

variable {f g : EntityId → Option Entity} {a b : Metadata}

lemma AgreeAt.of_eq {id : EntityId} (h : g id = f id) : AgreeAt f g id :=
  congrArg (Option.map Entity.withCounts) h

lemma AgreeAt.eq_none {id : EntityId} (h : AgreeAt f g id) (hf : f id = none) : g id = none := by
  rw [AgreeAt, hf] at h
  exact Option.map_eq_none_iff.mp h

lemma AgreeAt.eq_some {id : EntityId} {e : Entity} (h : AgreeAt f g id) (hf : f id = some e) :
    ∃ e', g id = some e' ∧ e'.withCounts = e.withCounts := by
  rw [AgreeAt, hf] at h
  exact Option.map_eq_some_iff.mp h

lemma AgreeOn.left (h : AgreeOn f g (a.combine b)) : AgreeOn f g a :=
  fun id ha => h id ((Metadata.contains_combine a b id).mpr (.inl ha))

lemma AgreeOn.right (h : AgreeOn f g (a.combine b)) : AgreeOn f g b :=
  fun id hb => h id ((Metadata.contains_combine a b id).mpr (.inr hb))

lemma AgreeOn.at_entity {id : EntityId} (h : AgreeOn f g (.ofEntity id)) : AgreeAt f g id :=
  h id ((Metadata.contains_ofEntity id id).mpr rfl)

lemma relatedItems_congr {e e' : Entity} (h : e'.withCounts = e.withCounts)
    (relations : List PropertyId) : e'.relatedItems relations = e.relatedItems relations :=
  congrArg (·.relatedItems relations) h

namespace Membership

variable {config : Config} {classes : List ItemId}

def Step.visited : Step → List ItemId
  | found visited => visited
  | next visited _ => visited

lemma mem_visited_level {c : ItemId} {visited next frontier : List ItemId} (h : c ∈ visited) :
    c ∈ (level config f classes visited next frontier).visited := by
  fun_induction level config f classes visited next frontier with
  | case1 => exact h
  | case2 _ _ _ _ _ ih => exact ih h
  | case3 _ _ _ _ _ _ ih => exact ih (List.mem_cons_of_mem _ h)
  | case4 => exact List.mem_cons_of_mem _ h
  | case5 _ _ _ _ _ _ _ _ _ ih => exact ih (List.mem_cons_of_mem _ h)

lemma level_congr {visited next frontier : List ItemId}
    (h : ∀ c ∈ (level config f classes visited next frontier).visited, AgreeAt f g (.item c)) :
    level config g classes visited next frontier = level config f classes visited next frontier := by
  fun_induction level config f classes visited next frontier with
  | case1 => rfl
  | case2 visited next c frontier hc ih =>
    rw [level, if_pos hc, ih h]
  | case3 visited next c frontier hc hf ih =>
    have hg := (h c (mem_visited_level List.mem_cons_self)).eq_none hf
    rw [level, if_neg hc, hg]
    exact ih h
  | case4 visited next c frontier hc e hf parents hfound =>
    obtain ⟨e', hg, he⟩ := (h c List.mem_cons_self).eq_some hf
    rw [level, if_neg hc, hg]
    simp only [relatedItems_congr he]
    exact if_pos hfound
  | case5 visited next c frontier hc e hf parents hfound ih =>
    obtain ⟨e', hg, he⟩ := (h c (mem_visited_level List.mem_cons_self)).eq_some hf
    rw [level, if_neg hc, hg]
    simp only [relatedItems_congr he]
    rw [if_neg hfound]
    exact ih h

lemma mem_visited_walk {c : ItemId} {visited : List ItemId} {levels : Nat} {frontier : List ItemId}
    (h : c ∈ visited) : c ∈ (walk config f classes visited levels frontier).visited := by
  fun_induction walk config f classes visited levels frontier with
  | case1 => exact h
  | case2 => exact h
  | case3 visited levels frontier _ visited' hl =>
    have hmem : c ∈ (level config f classes visited [] frontier).visited := mem_visited_level h
    rw [hl] at hmem
    exact hmem
  | case4 visited levels frontier _ visited' next hl ih =>
    have hmem : c ∈ (level config f classes visited [] frontier).visited := mem_visited_level h
    rw [hl] at hmem
    exact ih hmem

lemma walk_congr {visited : List ItemId} {levels : Nat} {frontier : List ItemId}
    (h : ∀ c ∈ (walk config f classes visited levels frontier).visited, AgreeAt f g (.item c)) :
    walk config g classes visited levels frontier = walk config f classes visited levels frontier := by
  fun_induction walk config f classes visited levels frontier with
  | case1 => rw [walk]
  | case2 => rw [walk]
  | case3 visited levels frontier hne visited' hl =>
    have hlevel : level config g classes visited [] frontier = level config f classes visited [] frontier :=
      level_congr (by
        rw [hl]
        exact h)
    rw [walk, hlevel, hl]
    exact hne
  | case4 visited levels frontier hne visited' next hl ih =>
    have hlevel : level config g classes visited [] frontier = level config f classes visited [] frontier :=
      level_congr (by
        rw [hl]
        exact fun c hc => h c (mem_visited_walk hc))
    rw [walk, hlevel, hl]
    · exact ih h
    · exact hne

lemma isSubclass_congr {start : ItemId} (h : AgreeOn f g (isSubclass config f classes start).metadata) :
    isSubclass config g classes start = isSubclass config f classes start := by
  have hwalk : walk config g classes [] config.typeCheckMaxDepth [start] =
      walk config f classes [] config.typeCheckMaxDepth [start] :=
    walk_congr fun c hc => h (.item c) ((Metadata.contains_ofEntities _ _).mpr (List.mem_map_of_mem hc))
  rw [isSubclass, hwalk, isSubclass]

lemma contains_anySubclass {known : Metadata} {starts : List ItemId} {id : EntityId}
    (h : known.entities.contains id = true) :
    (anySubclass config f classes known starts).metadata.entities.contains id = true := by
  fun_induction anySubclass config f classes known starts with
  | case1 => exact h
  | case2 known _ _ answer _ _ => exact (Metadata.contains_combine known answer.metadata id).mpr (.inl h)
  | case3 known _ _ answer _ _ ih =>
    exact ih ((Metadata.contains_combine known answer.metadata id).mpr (.inl h))

lemma anySubclass_congr {known : Metadata} {starts : List ItemId}
    (h : AgreeOn f g (anySubclass config f classes known starts).metadata) :
    anySubclass config g classes known starts = anySubclass config f classes known starts := by
  fun_induction anySubclass config f classes known starts with
  | case1 => rw [anySubclass]
  | case2 known c rest answer _ htrue =>
    rw [anySubclass, isSubclass_congr h.right]
    exact if_pos htrue
  | case3 known c rest answer _ hfalse ih =>
    have hstart : AgreeOn f g answer.metadata := fun id hid =>
      h id (contains_anySubclass ((Metadata.contains_combine known answer.metadata id).mpr (.inr hid)))
    rw [anySubclass, isSubclass_congr hstart, ← ih h]
    exact if_neg hfalse

lemma byWalk_congr {e : Entity} {relations : List PropertyId}
    (h : AgreeOn f g (byWalk config f classes e relations).metadata) :
    byWalk config g classes e relations = byWalk config f classes e relations := by
  simp only [byWalk] at h ⊢
  split at h
  · rename_i hdirect
    rw [if_pos hdirect, if_pos hdirect]
  · rename_i hdirect
    rw [if_neg hdirect, if_neg hdirect, anySubclass_congr h]

end Membership

end EntityAudit
