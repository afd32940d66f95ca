import EntityAudit.Proofs.Membership.Routes

/-!
How far the walk up the classes goes: a class is found if it is not further away than the depth allows, and
a walk that finds none has looked at everything that is nearer. Behind the greatest number that levels can
have there is no answer.
-/

namespace EntityAudit

variable {find? : EntityId → Option Entity} {subclassOf : PropertyId} {goal : ItemId → Prop}
  {start c x : ItemId} {l visited waiting frontier : List ItemId} {n k : Nat}

lemma Explored.leaves_unvisited (h : Explored find? subclassOf goal visited waiting)
    (hway : Ascent find? subclassOf c l x) (hc : c ∈ visited) (hx : x ∉ visited) :
    ∃ y ∈ waiting, ∃ k, k.length < l.length ∧ Ascent find? subclassOf y k x := by
  have hexplored : Explored find? subclassOf (· = x) visited waiting := by
    refine ⟨?_, h.closed⟩
    rintro _ hv rfl
    exact hx hv
  exact hexplored.leaves hway hc rfl

def Shortest (find? : EntityId → Option Entity) (subclassOf : PropertyId) (c : ItemId) (l : List ItemId)
    (d : ItemId) : Prop :=
  Ascent find? subclassOf c l d ∧ ∀ k, Ascent find? subclassOf c k d → l.length ≤ k.length

/-- A walk from the class has something to look at on a level, of which the first is the class itself. -/
def HasLevel (find? : EntityId → Option Entity) (subclassOf : PropertyId) (start : ItemId) (n : Nat) : Prop :=
  n = 0 ∨ ∃ l c, Shortest find? subclassOf start l c ∧ l.length + 1 = n ∧ ∃ p, Superclass find? subclassOf c p

structure Layer (find? : EntityId → Option Entity) (subclassOf : PropertyId) (start : ItemId) (n : Nat)
    (visited frontier : List ItemId) : Prop where
  visited_iff : ∀ x, x ∈ visited ↔ ∃ l, Ascent find? subclassOf start l x ∧ l.length < n
  frontier_iff : ∀ p, p ∈ frontier ↔ n = 0 ∧ p = start ∨
    ∃ l c, Shortest find? subclassOf start l c ∧ l.length + 1 = n ∧ Superclass find? subclassOf c p

namespace Layer

lemma first : Layer find? subclassOf start 0 [] [start] := by
  constructor <;> simp

lemma exists_of_frontier (h : Layer find? subclassOf start n visited frontier) (hx : x ∈ frontier) :
    ∃ l, Ascent find? subclassOf start l x ∧ l.length = n := by
  rcases (h.frontier_iff x).mp hx with ⟨rfl, rfl⟩ | ⟨l, c, hc, hl, hcx⟩
  · exact ⟨[], .refl x, rfl⟩
  · exact ⟨l ++ [c], hc.1.snoc hcx, by simpa using hl⟩

lemma mem_or_mem_iff (h : Layer find? subclassOf start n visited frontier) :
    x ∈ visited ∨ x ∈ frontier ↔ ∃ l, Ascent find? subclassOf start l x ∧ l.length < n + 1 := by
  constructor
  · rintro (hx | hx)
    · obtain ⟨l, hway, hl⟩ := (h.visited_iff x).mp hx
      exact ⟨l, hway, Nat.lt_succ_of_lt hl⟩
    · obtain ⟨l, hway, hl⟩ := h.exists_of_frontier hx
      exact ⟨l, hway, by omega⟩
  · rintro ⟨l, hway, hl⟩
    by_cases hx : x ∈ visited
    · exact .inl hx
    · have hleast : ∀ k, Ascent find? subclassOf start k x → n ≤ k.length := by
        intro k hk
        by_contra hless
        exact hx ((h.visited_iff x).mpr ⟨k, hk, Nat.not_le.mp hless⟩)
      refine .inr ((h.frontier_iff x).mpr ?_)
      have hlength := hleast l hway
      by_cases hnil : l = []
      · subst hnil
        cases hway
        exact .inl ⟨Nat.le_zero.mp hlength, rfl⟩
      · obtain ⟨k, d, rfl, hk, hdx⟩ := hway.eq_snoc hnil
        rw [List.length_append, List.length_singleton] at hlength hl
        refine .inr ⟨k, d, ⟨hk, fun j hj => ?_⟩, by omega, hdx⟩
        have hj := hleast _ (hj.snoc hdx)
        rw [List.length_append, List.length_singleton] at hj
        omega

lemma explored (h : Layer find? subclassOf start n visited frontier) :
    Explored find? subclassOf (fun _ => False) visited frontier := by
  refine ⟨fun _ _ => id, fun c hc p hcp => h.mem_or_mem_iff.mpr ?_⟩
  obtain ⟨l, hway, hl⟩ := (h.visited_iff c).mp hc
  exact ⟨l ++ [c], hway.snoc hcp, by simpa using hl⟩

lemma hasLevel_iff (h : Layer find? subclassOf start n visited frontier) :
    HasLevel find? subclassOf start n ↔ frontier ≠ [] := by
  rw [Ne, List.eq_nil_iff_forall_not_mem, not_forall_not]
  constructor
  · rintro (rfl | ⟨l, c, hc, hl, p, hcp⟩)
    · exact ⟨start, (h.frontier_iff start).mpr (.inl ⟨rfl, rfl⟩)⟩
    · exact ⟨p, (h.frontier_iff p).mpr (.inr ⟨l, c, hc, hl, hcp⟩)⟩
  · rintro ⟨p, hp⟩
    rcases (h.frontier_iff p).mp hp with ⟨hn, -⟩ | ⟨l, c, hc, hl, hcp⟩
    · exact .inl hn
    · exact .inr ⟨l, c, hc, hl, p, hcp⟩

lemma not_hasLevel (h : Layer find? subclassOf start n visited []) : ¬ HasLevel find? subclassOf start (n + k) := by
  have hpos : 0 < n := by
    rw [Nat.pos_iff_ne_zero]
    rintro rfl
    exact absurd rfl (h.hasLevel_iff.mp (.inl rfl))
  have hstart : start ∈ visited := (h.visited_iff start).mpr ⟨[], .refl start, hpos⟩
  rintro (hzero | ⟨l, c, hc, hl, p, hcp⟩)
  · omega
  · have hvisited : c ∈ visited := by
      by_contra hc'
      obtain ⟨y, hy, -⟩ := h.explored.leaves_unvisited hc.1 hstart hc'
      cases hy
    obtain ⟨j, hj, hjn⟩ := (h.visited_iff c).mp hvisited
    have hlj := hc.2 j hj
    exact List.not_mem_nil ((h.frontier_iff p).mpr (.inr ⟨l, c, hc, by omega, hcp⟩))

end Layer

namespace Membership

variable {config : Config} {classes next v w : List ItemId} {depth levels : Nat}

lemma mem_or_mem_of_level (h : level config find? classes visited next frontier = .next v w)
    (hx : x ∈ v) : x ∈ visited ∨ x ∈ frontier := by
  fun_induction level config find? classes visited next frontier with
  | case1 =>
    cases h
    exact .inl hx
  | case2 visited next c frontier _ ih => exact (ih h).imp_right (List.mem_cons_of_mem c)
  | case3 visited next c frontier _ _ ih =>
    rcases ih h with hv | hf
    · rcases List.mem_cons.mp hv with rfl | hv
      · exact .inr List.mem_cons_self
      · exact .inl hv
    · exact .inr (List.mem_cons_of_mem c hf)
  | case4 => cases h
  | case5 visited next c frontier _ _ _ _ _ ih =>
    rcases ih h with hv | hf
    · rcases List.mem_cons.mp hv with rfl | hv
      · exact .inr List.mem_cons_self
      · exact .inl hv
    · exact .inr (List.mem_cons_of_mem c hf)

lemma mem_visited_walk_iff
    (h : Explored find? config.subclassOf (Borders config find? classes) visited frontier)
    (hnot : (walk config find? classes visited levels frontier).isFound = false) :
    x ∈ (walk config find? classes visited levels frontier).visited ↔
      x ∈ visited ∨ ∃ c ∈ frontier, ∃ l, Ascent find? config.subclassOf c l x ∧ l.length < levels := by
  fun_induction walk config find? classes visited levels frontier with
  | case1 => simp [Walk.visited]
  | case2 => simp [Walk.visited]
  | case3 => cases hnot
  | case4 visited levels frontier _ v w hlevel ih =>
    have hexplored := explored_of_level hlevel (by simpa using h)
    rw [ih hexplored hnot]
    constructor
    · rintro (hv | ⟨p, hp, l, hway, hl⟩)
      · rcases mem_or_mem_of_level hlevel hv with hvisited | hfrontier
        · exact .inl hvisited
        · exact .inr ⟨x, hfrontier, [], .refl x, Nat.succ_pos _⟩
      · obtain ⟨c, hc, hcp⟩ := (superclass_of_level hlevel hp).resolve_left List.not_mem_nil
        exact .inr ⟨c, hc, c :: l, .step hcp hway, Nat.succ_lt_succ hl⟩
    · rintro (hvisited | ⟨c, hc, l, hway, hl⟩)
      · have hv : x ∈ (level config find? classes visited [] frontier).visited := mem_visited_level hvisited
        rw [hlevel] at hv
        exact .inl hv
      · by_cases hv : x ∈ v
        · exact .inl hv
        · obtain ⟨y, hy, k, hk, hyk⟩ := hexplored.leaves_unvisited hway (mem_of_level hlevel hc) hv
          exact .inr ⟨y, hy, k, hyk, by omega⟩

lemma mem_next_of_level_iff {p : ItemId} (h : level config find? classes visited next frontier = .next v w) :
    p ∈ w ↔ p ∈ next ∨ ∃ c ∈ frontier, c ∉ visited ∧ Superclass find? config.subclassOf c p := by
  fun_induction level config find? classes visited next frontier with
  | case1 =>
    cases h
    simp
  | case2 visited next c frontier hc ih =>
    rw [ih h, List.exists_mem_cons_iff]
    exact or_congr_right (or_iff_right fun hnew => hnew.1 hc).symm
  | case3 visited next c frontier hc hf ih =>
    have hnone : ¬ Superclass find? config.subclassOf c p := by
      rintro ⟨e, he, -⟩
      cases hf.symm.trans he
    rw [ih h]
    refine or_congr_right ⟨?_, ?_⟩
    · rintro ⟨x, hx, hnew, hxp⟩
      exact ⟨x, List.mem_cons_of_mem _ hx, fun hv => hnew (List.mem_cons_of_mem _ hv), hxp⟩
    · rintro ⟨x, hx, hnew, hxp⟩
      have hne : x ≠ c := fun heq => hnone (heq ▸ hxp)
      exact ⟨x, (List.mem_cons.mp hx).resolve_left hne, by simp [hne, hnew], hxp⟩
  | case4 => cases h
  | case5 visited next c frontier hc e he parents _ ih =>
    have hparents : p ∈ parents ↔ Superclass find? config.subclassOf c p := by
      constructor
      · exact fun hp => ⟨e, he, hp⟩
      · rintro ⟨e', he', hp⟩
        obtain rfl := Option.some.inj (he.symm.trans he')
        exact hp
    rw [ih h, List.mem_append, hparents, or_assoc]
    refine or_congr_right ⟨?_, ?_⟩
    · rintro (hcp | ⟨x, hx, hnew, hxp⟩)
      · exact ⟨c, List.mem_cons_self, hc, hcp⟩
      · exact ⟨x, List.mem_cons_of_mem _ hx, fun hv => hnew (List.mem_cons_of_mem _ hv), hxp⟩
    · rintro ⟨x, hx, hnew, hxp⟩
      by_cases hne : x = c
      · exact .inl (hne ▸ hxp)
      · exact .inr ⟨x, (List.mem_cons.mp hx).resolve_left hne, by simp [hne, hnew], hxp⟩

lemma layer_of_level (h : Layer find? config.subclassOf start n visited frontier)
    (hlevel : level config find? classes visited [] frontier = .next v w) :
    Layer find? config.subclassOf start (n + 1) v w := by
  constructor
  · intro x
    rw [← h.mem_or_mem_iff]
    refine ⟨mem_or_mem_of_level hlevel, ?_⟩
    rintro (hx | hx)
    · have hv : x ∈ (level config find? classes visited [] frontier).visited := mem_visited_level hx
      rwa [hlevel] at hv
    · exact mem_of_level hlevel hx
  · intro p
    rw [mem_next_of_level_iff hlevel]
    constructor
    · rintro (hp | ⟨c, hc, hnew, hcp⟩)
      · cases hp
      · obtain ⟨l, hway, hl⟩ := h.exists_of_frontier hc
        refine .inr ⟨l, c, ⟨hway, fun k hk => ?_⟩, by omega, hcp⟩
        by_contra hless
        exact hnew ((h.visited_iff c).mpr ⟨k, hk, by omega⟩)
    · rintro (⟨hzero, -⟩ | ⟨l, c, hc, hl, hcp⟩)
      · cases hzero
      · have hnew : c ∉ visited := by
          intro hv
          obtain ⟨k, hk, hkn⟩ := (h.visited_iff c).mp hv
          have hle := hc.2 k hk
          omega
        exact .inr ⟨c, (h.mem_or_mem_iff.mpr ⟨l, hc.1, by omega⟩).resolve_left hnew, hnew, hcp⟩

lemma isStopped_walk_iff (h : Layer find? config.subclassOf start n visited frontier) :
    (walk config find? classes visited (levels + 1) frontier).isStopped = true ↔
      (walk config find? classes visited (levels + 1) frontier).isFound = false ∧
        HasLevel find? config.subclassOf start (n + levels) := by
  induction levels generalizing n visited frontier with
  | zero =>
    rw [show n + 0 = n from rfl, h.hasLevel_iff]
    cases frontier with
    | nil => simp [walk, Walk.isStopped]
    | cons c frontier =>
      simp only [walk]
      cases level config find? classes visited [] (c :: frontier) with
      | found v => simp [Walk.isStopped, Walk.isFound]
      | next v w => simp [Walk.isStopped, Walk.isFound]
  | succ levels ih =>
    cases frontier with
    | nil => simp [walk, Walk.isStopped, h.not_hasLevel]
    | cons c frontier =>
      cases hlevel : level config find? classes visited [] (c :: frontier) with
      | found v => simp [walk, hlevel, Walk.isStopped, Walk.isFound]
      | next v w =>
        have hwalk : walk config find? classes visited (levels + 1 + 1) (c :: frontier) =
            walk config find? classes v (levels + 1) w := by
          rw [walk, hlevel]
          exact List.cons_ne_nil c frontier
        rw [hwalk, Nat.add_comm levels 1, ← Nat.add_assoc, Nat.add_comm 1 levels]
        exact ih (layer_of_level h hlevel)

/-- A way to one of the classes from a level on, of one step or more and at most one step beyond the greatest depth. -/
def Within (config : Config) (find? : EntityId → Option Entity) (classes : List ItemId) (start : ItemId)
    (depth : Nat) : Prop :=
  ∃ c ∈ classes, ∃ l, Ascent find? config.subclassOf start l c ∧ l ≠ [] ∧
    depth + l.length ≤ config.typeCheckMaxDepth + 1

lemma isFound_walk_iff_within :
    (walk config find? classes [] (config.typeCheckMaxDepth + 1 - depth) [start]).isFound = true ↔
      Within config find? classes start depth := by
  rw [isFound_from_iff]
  constructor
  · rintro ⟨l, c, hc, hway, hne, hl⟩
    have hpos := List.length_pos_iff.mpr hne
    exact ⟨c, hc, l, hway, hne, by omega⟩
  · rintro ⟨c, hc, l, hway, hne, hl⟩
    exact ⟨l, c, hc, hway, hne, by omega⟩

lemma isSubclassFrom?_eq_none_iff : isSubclassFrom? config find? classes start depth = none ↔
    UInt32.size ≤ config.typeCheckMaxDepth + 1 ∧ depth ≤ config.typeCheckMaxDepth ∧
      ¬ Within config find? classes start depth ∧
      HasLevel find? config.subclassOf start (config.typeCheckMaxDepth - depth) := by
  rw [isSubclassFrom?, ite_eq_left_iff, imp_iff_not (by simp), not_not, and_left_comm]
  refine and_congr_right fun _ => and_congr_right fun hdepth => ?_
  have hlevels : config.typeCheckMaxDepth + 1 - depth = config.typeCheckMaxDepth - depth + 1 := by omega
  rw [← isFound_walk_iff_within, Bool.not_eq_true, hlevels, isStopped_walk_iff .first, Nat.zero_add]

theorem isSubclassFrom?_one {s : Store} (h : s.ids.length + 3 < UInt32.size) :
    isSubclassFrom? config s.find? classes start 1 = some (isSubclass config s.find? classes start) := by
  have hsome : isSubclassFrom? config s.find? classes start 1 ≠ none := by
    rw [Ne, isSubclassFrom?_eq_none_iff]
    rintro ⟨hsize, hdepth, -, hzero | ⟨l, c, hc, hl, -⟩⟩
    · have hlimit : UInt32.size = 4294967296 := rfl
      omega
    · obtain ⟨k, hk, hck⟩ := hc.1.short
      have hle := hc.2 k hck
      omega
  obtain ⟨answer, hanswer⟩ := Option.ne_none_iff_exists'.mp hsome
  rw [hanswer]
  rw [isSubclassFrom?, Option.ite_none_left_eq_some] at hanswer
  exact hanswer.2.symm

/-- A class is found exactly if a way of one step or more leads up to it that goes at most one step beyond
the greatest depth. If none is found, the classes on record are those that are reached within the greatest
depth. There is no answer only where the greatest depth is the last number of all, the walk comes to it and
no class is found on the way. -/
theorem found_iff_within_depth (config : Config) (find? : EntityId → Option Entity) (classes : List ItemId)
    (start : ItemId) (depth : Nat) :
    (isSubclassFrom? config find? classes start depth = none ↔
      UInt32.size ≤ config.typeCheckMaxDepth + 1 ∧ depth ≤ config.typeCheckMaxDepth ∧
        ¬ Within config find? classes start depth ∧
        HasLevel find? config.subclassOf start (config.typeCheckMaxDepth - depth)) ∧
    ∀ answer, isSubclassFrom? config find? classes start depth = some answer →
      (answer.value = true ↔ Within config find? classes start depth) ∧
      (answer.value = false → ∀ id, answer.metadata.entities.contains id = true ↔
        ∃ c, id = .item c ∧ ∃ l, Ascent find? config.subclassOf start l c ∧
          depth + l.length ≤ config.typeCheckMaxDepth) := by
  refine ⟨isSubclassFrom?_eq_none_iff, fun answer hsome => ?_⟩
  rw [isSubclassFrom?, Option.ite_none_left_eq_some] at hsome
  obtain rfl := Option.some.inj hsome.2
  refine ⟨isFound_walk_iff_within, fun hnot id => ?_⟩
  have hvisited : ∀ c, c ∈ (walk config find? classes [] (config.typeCheckMaxDepth + 1 - depth) [start]).visited ↔
      ∃ l, Ascent find? config.subclassOf start l c ∧ depth + l.length ≤ config.typeCheckMaxDepth := by
    intro c
    rw [mem_visited_walk_iff .nil hnot]
    simp only [List.not_mem_nil, false_or, List.mem_singleton, exists_eq_left]
    refine exists_congr fun l => and_congr_right fun _ => ?_
    omega
  simp only [← hvisited]
  refine (Metadata.contains_ofEntities _ id).trans (List.mem_map.trans ?_)
  exact exists_congr fun c => and_comm.trans (and_congr_left' eq_comm)

open Sample

theorem missing_class_recorded :
    ∃ answer, isSubclassFrom? {} kinds.find? [⟨1⟩] ⟨2⟩ 18 = some answer ∧ answer.value = false ∧
      kinds.find? (.item ⟨4⟩) = none ∧ answer.metadata.entities.contains (.item ⟨4⟩) = true := by
  obtain ⟨answer, hanswer⟩ : ∃ answer, isSubclassFrom? {} kinds.find? [⟨1⟩] ⟨2⟩ 18 = some answer :=
    Option.isSome_iff_exists.mp (by decide)
  have hnot : answer.value = false := by
    obtain rfl := Option.some.inj hanswer
    decide
  have hway : Ascent kinds.find? Sample.subclassOf ⟨2⟩ [⟨2⟩, ⟨3⟩] ⟨4⟩ :=
    .step ⟨_, rfl, by decide⟩ (.step ⟨_, rfl, by decide⟩ (.refl _))
  refine ⟨answer, hanswer, hnot, rfl, ?_⟩
  exact (((found_iff_within_depth {} kinds.find? [⟨1⟩] ⟨2⟩ 18).2 answer hanswer).2 hnot _).mpr
    ⟨_, rfl, _, hway, Nat.le_refl _⟩

theorem no_answer_behind_last_depth :
    let config : Config := { typeCheckMaxDepth := 4294967295 }
    isSubclassFrom? config kinds.find? [⟨4⟩] ⟨2⟩ 4294967295 = none ∧
      ¬ Within config kinds.find? [⟨4⟩] ⟨2⟩ 4294967295 := by
  intro config
  have hnone : isSubclassFrom? config kinds.find? [⟨4⟩] ⟨2⟩ 4294967295 = none :=
    Option.isNone_iff_eq_none.mp (by decide)
  exact ⟨hnone, (isSubclassFrom?_eq_none_iff.mp hnone).2.2.1⟩

end Membership

end EntityAudit
