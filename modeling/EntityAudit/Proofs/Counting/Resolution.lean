import EntityAudit.Proofs.Counting.Best
import Mathlib.Data.List.MinMax

namespace EntityAudit

lemma Rank.level_injective : Function.Injective Rank.level := by
  intro r r' h
  cases r <;> cases r' <;> simp_all [level]

namespace StatementList

variable {l : StatementList} {s t : Statement} {p : PropertyId} {i : Nat}

lemma mem_best_iff : (s, i) ∈ l.best ↔ l.toList[i]? = some s ∧ l.BestRanked s := by
  rw [best, List.mem_filter, isBest_iff, placed, List.mem_zipIdx_iff_getElem?]

lemma rank_eq_of_bestRanked (hs : s ∈ l.toList) (ht : t ∈ l.toList) (hs' : l.BestRanked s) (ht' : l.BestRanked t)
    (h : s.property = t.property) : s.rank = t.rank :=
  Rank.level_injective (Nat.le_antisymm (ht'.2 s hs h) (hs'.2 t ht h.symm))

lemma exists_bestRanked (hs : s ∈ l.toList) (hrank : s.rank ≠ .deprecated) :
    ∃ t ∈ l.toList, t.property = s.property ∧ l.BestRanked t := by
  have mem_ofProperty {t : Statement} : t ∈ l.ofProperty s.property ↔ t ∈ l.toList ∧ t.property = s.property := by
    simp [ofProperty]
  have hmem : s ∈ l.ofProperty s.property := mem_ofProperty.mpr ⟨hs, rfl⟩
  obtain ⟨t, ht⟩ : ∃ t, (l.ofProperty s.property).argmax (·.rank.level) = some t := by
    rw [← Option.ne_none_iff_exists', Ne, List.argmax_eq_none]
    exact List.ne_nil_of_mem hmem
  obtain ⟨htl, htp⟩ := mem_ofProperty.mp (List.argmax_mem ht)
  have hhighest : ∀ u ∈ l.ofProperty s.property, u.rank.level ≤ t.rank.level :=
    fun u hu => List.le_of_mem_argmax (f := fun u : Statement => u.rank.level) hu ht
  refine ⟨t, htl, htp, fun hdeprecated => hrank ?_, fun u hu hup => ?_⟩
  · have hle := hhighest s hmem
    rw [hdeprecated] at hle
    exact Rank.level_injective (Nat.le_zero.mp hle)
  · exact hhighest u (mem_ofProperty.mpr ⟨hu, hup.trans htp⟩)

/-- The best statements are, in list order and place by place, those that are not deprecated and that no
statement of their property outranks. Those of one property have one rank, and a property lacks them only if it
has no statement that is not deprecated. -/
theorem best_resolves (l : StatementList) :
    l.best.Sublist l.toList.zipIdx ∧
      (∀ s i, (s, i) ∈ l.best ↔ l.toList[i]? = some s ∧ s.rank ≠ .deprecated ∧
        ∀ t ∈ l.toList, t.property = s.property → ¬ s.rank.level < t.rank.level) ∧
      (∀ x ∈ l.best, ∀ y ∈ l.best, x.1.property = y.1.property → x.1.rank = y.1.rank) ∧
      ∀ p, (∃ x ∈ l.best, x.1.property = p) ↔ ∃ s ∈ l.toList, s.property = p ∧ s.rank ≠ .deprecated := by
  have mem_toList {x : Statement × Nat} (hx : x ∈ l.best) : x.1 ∈ l.toList :=
    List.mem_of_getElem? (mem_best_iff.mp hx).1
  refine ⟨List.filter_sublist, fun s i => ?_, fun x hx y hy h => ?_, fun p => ⟨?_, ?_⟩⟩
  · simp only [mem_best_iff, BestRanked, Nat.not_lt]
  · exact rank_eq_of_bestRanked (mem_toList hx) (mem_toList hy) (mem_best_iff.mp hx).2 (mem_best_iff.mp hy).2 h
  · rintro ⟨x, hx, rfl⟩
    exact ⟨x.1, mem_toList hx, rfl, (mem_best_iff.mp hx).2.1⟩
  · rintro ⟨s, hs, rfl, hrank⟩
    obtain ⟨t, ht, htp, hbest⟩ := exists_bestRanked hs hrank
    obtain ⟨i, hi⟩ := List.getElem?_of_mem ht
    exact ⟨(t, i), mem_best_iff.mpr ⟨hi, hbest⟩, htp⟩

end StatementList

end EntityAudit
