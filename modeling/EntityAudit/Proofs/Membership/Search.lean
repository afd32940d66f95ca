import EntityAudit.Proofs.Membership.Ascent

namespace EntityAudit.GraphQuery

variable {s : Store} {subclassOf : PropertyId} {classes visited queue starts : List ItemId} {c d : ItemId}
  {l : List ItemId}

def Reaches (s : Store) (subclassOf : PropertyId) (classes starts : List ItemId) : Prop :=
  ∃ c ∈ starts, ∃ l, ∃ d ∈ classes, Ascent s.find? subclassOf c l d

lemma reaches_cons :
    Reaches s subclassOf classes (c :: starts) ↔
      (∃ l, ∃ d ∈ classes, Ascent s.find? subclassOf c l d) ∨ Reaches s subclassOf classes starts := by
  simp [Reaches]

lemma reaches_cons_of_explored (h : Explored s.find? subclassOf (· ∈ classes) visited queue)
    (hc : c ∈ visited) :
    Reaches s subclassOf classes (c :: queue) ↔ Reaches s subclassOf classes queue := by
  rw [reaches_cons]
  refine ⟨?_, .inr⟩
  rintro (⟨l, d, hd, hway⟩ | hqueue)
  · obtain ⟨x, hx, k, -, hxk⟩ := h.leaves hway hc hd
    exact ⟨x, hx, k, d, hd, hxk⟩
  · exact hqueue

lemma reaches_append_superclasses {e : Entity} (hc : s.find? (.item c) = some e)
    (h : Explored s.find? subclassOf (· ∈ classes) (c :: visited) (queue ++ e.relatedItems [subclassOf])) :
    Reaches s subclassOf classes (queue ++ e.relatedItems [subclassOf]) ↔
      Reaches s subclassOf classes (c :: queue) := by
  constructor
  · rintro ⟨x, hx, l, d, hd, hway⟩
    rcases List.mem_append.mp hx with hx | hx
    · exact ⟨x, List.mem_cons_of_mem _ hx, l, d, hd, hway⟩
    · exact ⟨c, List.mem_cons_self, c :: l, d, hd, .step ⟨e, hc, hx⟩ hway⟩
  · rintro ⟨x, hx, hway⟩
    refine (reaches_cons_of_explored h List.mem_cons_self).mp ⟨x, ?_, hway⟩
    rcases List.mem_cons.mp hx with rfl | hx
    · exact List.mem_cons_self
    · exact List.mem_cons_of_mem _ (List.mem_append_left _ hx)

lemma search_eq_true_iff (h : Explored s.find? subclassOf (· ∈ classes) visited queue) :
    search s subclassOf classes visited queue = true ↔ Reaches s subclassOf classes queue := by
  fun_induction search s subclassOf classes visited queue with
  | case1 => simp [Reaches]
  | case2 visited c queue hc ih =>
    have hrest : Explored s.find? subclassOf (· ∈ classes) visited queue := by
      apply h.skip
      intro p hp
      rcases List.mem_cons.mp hp with rfl | hp
      · exact .inl hc
      · exact .inr hp
    rw [ih hrest, reaches_cons_of_explored hrest hc]
  | case3 visited c queue _ hclass =>
    exact iff_of_true rfl ⟨c, List.mem_cons_self, [], c, hclass, .refl c⟩
  | case4 visited c queue _ hclass hf ih =>
    have hrest : Explored s.find? subclassOf (· ∈ classes) (c :: visited) queue := by
      apply h.visit hclass
      · exact fun p hp => List.mem_cons.mp hp
      · rintro p ⟨e, he, -⟩
        cases hf.symm.trans he
    rw [ih hrest, reaches_cons_of_explored hrest List.mem_cons_self]
  | case5 visited c queue _ hclass e hf ih =>
    have hrest : Explored s.find? subclassOf (· ∈ classes) (c :: visited)
        (queue ++ e.relatedItems [subclassOf]) := by
      apply h.visit hclass
      · intro p hp
        exact (List.mem_cons.mp hp).imp_right (List.mem_append_left _)
      · rintro p ⟨e', he', hp⟩
        obtain rfl := Option.some.inj (hf.symm.trans he')
        exact List.mem_append_right _ hp
    rw [ih hrest, reaches_append_superclasses hf hrest]

lemma hasType_ofStore {config : Config} {id : EntityId} {e : Entity} (he : s.find? id = some e)
    (instance_ : Bool) : ∃ found, (ofStore config s).hasType id classes instance_ = .ok { value := found } ∧
      (found = true ↔ Reaches s config.subclassOf classes
        (e.relatedItems [if instance_ then config.instanceOf else config.subclassOf])) := by
  refine ⟨search s config.subclassOf classes [] _, ?_, search_eq_true_iff .nil⟩
  simp only [ofStore, he]

end EntityAudit.GraphQuery
