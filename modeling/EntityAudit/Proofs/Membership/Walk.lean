import EntityAudit.Proofs.Agreement
import EntityAudit.Proofs.Membership.Ascent

namespace EntityAudit.Membership

variable {config : Config} {find? : EntityId → Option Entity} {classes visited next frontier : List ItemId}
  {c p : ItemId} {v n : List ItemId}

def Borders (config : Config) (find? : EntityId → Option Entity) (classes : List ItemId) (c : ItemId) :
    Prop :=
  ∃ p ∈ classes, Superclass find? config.subclassOf c p

lemma borders_of_level (h : level config find? classes visited next frontier = .found v) :
    ∃ c ∈ frontier, Borders config find? classes c := by
  fun_induction level config find? classes visited next frontier with
  | case1 => cases h
  | case2 visited next c frontier _ ih =>
    obtain ⟨x, hx, hborders⟩ := ih h
    exact ⟨x, List.mem_cons_of_mem _ hx, hborders⟩
  | case3 visited next c frontier _ _ ih =>
    obtain ⟨x, hx, hborders⟩ := ih h
    exact ⟨x, List.mem_cons_of_mem _ hx, hborders⟩
  | case4 visited next c frontier _ e he parents hfound =>
    obtain ⟨p, hp, hclass⟩ := List.any_eq_true.mp hfound
    exact ⟨c, List.mem_cons_self, p, of_decide_eq_true hclass, e, he, hp⟩
  | case5 visited next c frontier _ _ _ _ _ ih =>
    obtain ⟨x, hx, hborders⟩ := ih h
    exact ⟨x, List.mem_cons_of_mem _ hx, hborders⟩

lemma explored_of_level (h : level config find? classes visited next frontier = .next v n)
    (hexplored : Explored find? config.subclassOf (Borders config find? classes) visited (next ++ frontier)) :
    Explored find? config.subclassOf (Borders config find? classes) v n := by
  fun_induction level config find? classes visited next frontier with
  | case1 visited next =>
    cases h
    simpa using hexplored
  | case2 visited next c frontier hc ih =>
    apply ih h
    apply hexplored.skip
    intro p hp
    rcases List.mem_cons.mp (List.perm_middle.mem_iff.mp hp) with rfl | hp
    · exact .inl hc
    · exact .inr hp
  | case3 visited next c frontier _ hf ih =>
    have hnone : ∀ p, ¬ Superclass find? config.subclassOf c p := by
      rintro p ⟨e, he, -⟩
      cases hf.symm.trans he
    apply ih h
    apply hexplored.visit
    · rintro ⟨p, -, hp⟩
      exact hnone p hp
    · exact fun p hp => List.mem_cons.mp (List.perm_middle.mem_iff.mp hp)
    · intro p hp
      exact absurd hp (hnone p)
  | case4 => cases h
  | case5 visited next c frontier _ e he parents hnot ih =>
    have hparents : ∀ p, Superclass find? config.subclassOf c p → p ∈ parents := by
      rintro p ⟨e', he', hp⟩
      obtain rfl := Option.some.inj (he.symm.trans he')
      exact hp
    apply ih h
    apply hexplored.visit
    · rintro ⟨p, hclass, hp⟩
      exact hnot (List.any_eq_true.mpr ⟨p, hparents p hp, decide_eq_true hclass⟩)
    · intro p hp
      refine (List.mem_cons.mp (List.perm_middle.mem_iff.mp hp)).imp_right fun hp => ?_
      rcases List.mem_append.mp hp with hp | hp
      · exact List.mem_append_left _ (List.mem_append_left _ hp)
      · exact List.mem_append_right _ hp
    · intro p hp
      simp [hparents p hp]

lemma mem_of_level (h : level config find? classes visited next frontier = .next v n)
    (hc : c ∈ frontier) : c ∈ v := by
  have hvisited : ∀ {visited next frontier : List ItemId}, c ∈ visited →
      level config find? classes visited next frontier = .next v n → c ∈ v := by
    intro visited next frontier hmem hlevel
    have hv : c ∈ (level config find? classes visited next frontier).visited := mem_visited_level hmem
    rwa [hlevel] at hv
  fun_induction level config find? classes visited next frontier with
  | case1 => cases hc
  | case2 visited next x frontier hx ih =>
    rcases List.mem_cons.mp hc with rfl | hc
    · exact hvisited hx h
    · exact ih h hc
  | case3 visited next x frontier _ _ ih =>
    rcases List.mem_cons.mp hc with rfl | hc
    · exact hvisited List.mem_cons_self h
    · exact ih h hc
  | case4 => cases h
  | case5 visited next x frontier _ _ _ _ _ ih =>
    rcases List.mem_cons.mp hc with rfl | hc
    · exact hvisited List.mem_cons_self h
    · exact ih h hc

lemma superclass_of_level (h : level config find? classes visited next frontier = .next v n)
    (hp : p ∈ n) : p ∈ next ∨ ∃ c ∈ frontier, Superclass find? config.subclassOf c p := by
  fun_induction level config find? classes visited next frontier with
  | case1 =>
    cases h
    exact .inl hp
  | case2 visited next c frontier _ ih =>
    refine (ih h).imp_right ?_
    rintro ⟨x, hx, hxp⟩
    exact ⟨x, List.mem_cons_of_mem _ hx, hxp⟩
  | case3 visited next c frontier _ _ ih =>
    refine (ih h).imp_right ?_
    rintro ⟨x, hx, hxp⟩
    exact ⟨x, List.mem_cons_of_mem _ hx, hxp⟩
  | case4 => cases h
  | case5 visited next c frontier _ e he parents _ ih =>
    rcases ih h with hp | ⟨x, hx, hxp⟩
    · rcases List.mem_append.mp hp with hp | hp
      · exact .inl hp
      · exact .inr ⟨c, List.mem_cons_self, e, he, hp⟩
    · exact .inr ⟨x, List.mem_cons_of_mem _ hx, hxp⟩

lemma isFound_walk_iff {levels : Nat}
    (h : Explored find? config.subclassOf (Borders config find? classes) visited frontier) :
    (walk config find? classes visited levels frontier).isFound = true ↔
      ∃ c ∈ frontier, ∃ l d, Ascent find? config.subclassOf c l d ∧ Borders config find? classes d ∧
        l.length < levels := by
  fun_induction walk config find? classes visited levels frontier with
  | case1 => simp [Walk.isFound]
  | case2 => simp [Walk.isFound]
  | case3 visited levels frontier _ v hlevel =>
    obtain ⟨c, hc, hborders⟩ := borders_of_level hlevel
    exact iff_of_true rfl ⟨c, hc, [], c, .refl c, hborders, Nat.succ_pos _⟩
  | case4 visited levels frontier _ v n hlevel ih =>
    have hexplored := explored_of_level hlevel (by simpa using h)
    rw [ih hexplored]
    constructor
    · rintro ⟨p, hp, l, d, hway, hborders, hl⟩
      obtain ⟨c, hc, hcp⟩ := (superclass_of_level hlevel hp).resolve_left List.not_mem_nil
      exact ⟨c, hc, c :: l, d, .step hcp hway, hborders, Nat.succ_lt_succ hl⟩
    · rintro ⟨c, hc, l, d, hway, hborders, hl⟩
      obtain ⟨x, hx, k, hk, hxk⟩ := hexplored.leaves hway (mem_of_level hlevel hc) hborders
      exact ⟨x, hx, k, d, hxk, hborders, by omega⟩

lemma isFound_from_iff {start : ItemId} {levels : Nat} :
    (walk config find? classes [] levels [start]).isFound = true ↔
      ∃ l, ∃ d ∈ classes, Ascent find? config.subclassOf start l d ∧ l ≠ [] ∧ l.length ≤ levels := by
  rw [isFound_walk_iff .nil]
  constructor
  · rintro ⟨c, hc, l, d, hway, ⟨p, hp, hdp⟩, hl⟩
    obtain rfl := List.mem_singleton.mp hc
    refine ⟨l ++ [d], p, hp, hway.snoc hdp, by simp, ?_⟩
    simp only [List.length_append, List.length_singleton]
    omega
  · rintro ⟨l, p, hp, hway, hne, hl⟩
    obtain ⟨k, d, rfl, hk, hdp⟩ := hway.eq_snoc hne
    simp only [List.length_append, List.length_singleton] at hl
    exact ⟨start, List.mem_singleton_self start, k, d, hk, ⟨p, hp, hdp⟩, by omega⟩

lemma anySubclass_eq_true_iff {known : Metadata} {starts : List ItemId} :
    (anySubclass config find? classes known starts).value = true ↔
      ∃ c ∈ starts, (isSubclass config find? classes c).value = true := by
  fun_induction anySubclass config find? classes known starts with
  | case1 => simp
  | case2 known c rest answer _ htrue => exact iff_of_true rfl ⟨c, List.mem_cons_self, htrue⟩
  | case3 known c rest answer _ hfalse ih =>
    rw [ih, List.exists_mem_cons_iff]
    exact (or_iff_right hfalse).symm

lemma byWalk_eq_true_iff {e : Entity} {relations : List PropertyId} :
    (byWalk config find? classes e relations).value = true ↔
      ∃ c ∈ e.relatedItems relations, ∃ l, ∃ d ∈ classes, Ascent find? config.subclassOf c l d ∧
        l.length ≤ config.typeCheckMaxDepth := by
  simp only [byWalk]
  split
  · rename_i hdirect
    obtain ⟨c, hc, hclass⟩ := List.any_eq_true.mp hdirect
    exact iff_of_true rfl ⟨c, hc, [], c, of_decide_eq_true hclass, .refl c, Nat.zero_le _⟩
  · rename_i hdirect
    rw [anySubclass_eq_true_iff]
    refine exists_congr fun c => and_congr_right fun hc => ?_
    refine isFound_from_iff.trans ?_
    refine exists_congr fun l => exists_congr fun d => and_congr_right fun hd => and_congr_right fun hway => ?_
    refine and_iff_right ?_
    rintro rfl
    cases hway
    exact hdirect (List.any_eq_true.mpr ⟨c, hc, decide_eq_true hd⟩)

end EntityAudit.Membership
