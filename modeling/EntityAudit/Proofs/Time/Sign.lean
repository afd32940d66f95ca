import EntityAudit.Proofs.Time

namespace EntityAudit

open Text

variable {s : String} {year : List Char} {y : Int}

namespace TimeParts

/-- The number in the place of the year: behind the sign of the text, in front of a hyphen. -/
def HasYear (s : String) (y : Int) : Prop :=
  ∃ year rest, (sign s.toList).2 = year ++ '-' :: rest ∧
    integer? (-9223372036854775808) 9223372036854775808 year = some y

def MinusBehindSign (s : String) : Prop := ∃ c cs, (c = '+' ∨ c = '-') ∧ s.toList = c :: '-' :: cs

lemma sign_fst : (sign s.toList).1 = true ↔ s.toList.head? = some '-' := by
  unfold sign
  split
  · rename_i h
    simp [h]
  · rename_i h
    simp [h]
  · rename_i hminus hplus
    cases h : s.toList with
    | nil => simp
    | cons c cs =>
      have hc : c ≠ '-' := fun heq => hminus cs (by rw [h, heq])
      simp [hc]

lemma minusBehindSign_of_sign {cs : List Char} (h : (sign s.toList).2 = '-' :: cs) : MinusBehindSign s := by
  unfold sign at h
  split at h
  · rename_i hs
    exact ⟨_, cs, .inr rfl, h ▸ hs⟩
  · rename_i hs
    exact ⟨_, cs, .inl rfl, h ▸ hs⟩
  · rename_i hminus hplus
    exact absurd h (hminus cs)

lemma sign_of_minusBehindSign (h : MinusBehindSign s) : ∃ cs, (sign s.toList).2 = '-' :: cs := by
  obtain ⟨c, cs, rfl | rfl, hs⟩ := h
  · exact ⟨cs, by rw [hs]; rfl⟩
  · exact ⟨cs, by rw [hs]; rfl⟩

lemma HasYear.lt_zero_iff (h : HasYear s y) : y < 0 ↔ y ≠ 0 ∧ MinusBehindSign s := by
  obtain ⟨year, rest, hs, hy⟩ := h
  rcases integer?_sign hy with ⟨⟨ds, rfl⟩, hle⟩ | ⟨hdigits, hnonneg⟩
  · have hminus := minusBehindSign_of_sign hs
    simp only [hminus, and_true]
    omega
  · have hminus : ¬ MinusBehindSign s := by
      intro hminus
      obtain ⟨cs, hcs⟩ := sign_of_minusBehindSign hminus
      rw [hcs] at hs
      cases year with
      | nil => cases hy
      | cons c ds => exact hdigits ds (by rw [(List.cons.inj hs).1])
    simp only [hminus, and_false, iff_false]
    omega

lemma hasYear_of_ofString? {p : TimeParts} (h : ofString? s = some p) :
    ∃ y, HasYear s y ∧ -9223372036854775808 ≤ y ∧ y < 9223372036854775808 ∧
      p.year = if s.toList.head? = some '-' then opposite y else y := by
  obtain ⟨year, rest, y, -, -, -, -, -, hs, hy, -, -, -, -, rfl⟩ := exists_of_ofString? h
  obtain ⟨hlow, hhigh⟩ := integer?_ge hy
  refine ⟨y, ⟨year, rest, hs, hy⟩, hlow, hhigh, ?_⟩
  simp only [sign_fst]

/-- Every text is refused or read. The year of one that is read is the number in its place, or the opposite
of it behind a minus, and has the sign that the text begins with, exactly if no minus follows that sign or the
year is zero. -/
theorem year_signed_iff_not_minusBehindSign (s : String) :
    (ofString? s = none ∧ ∀ precision model, TimeValue.timestamp ⟨s, precision, model⟩ = .error (.time s)) ∨
    ∃ p y, ofString? s = some p ∧
      (∀ precision model, ∃ seconds, TimeValue.timestamp ⟨s, precision, model⟩ = .ok seconds) ∧
      HasYear s y ∧
      ((p.year = (if s.toList.head? = some '-' then -y else y) ∧
          if s.toList.head? = some '-' then p.year ≤ 0 else 0 ≤ p.year) ↔
        y = 0 ∨ ¬ MinusBehindSign s) := by
  cases h : ofString? s with
  | none =>
    refine .inl ⟨rfl, fun precision model => ?_⟩
    simp only [TimeValue.timestamp, h]
  | some p =>
    obtain ⟨y, hyear, hlow, hhigh, hp⟩ := hasYear_of_ofString? h
    refine .inr ⟨p, y, rfl, fun precision model => ?_, hyear, ?_⟩
    · simp only [TimeValue.timestamp, h]
      exact ⟨_, rfl⟩
    · have hnonneg : 0 ≤ y ↔ y = 0 ∨ ¬ MinusBehindSign s := by
        have hlt := hyear.lt_zero_iff
        by_cases hminus : MinusBehindSign s
        · simp only [hminus, and_true, not_true_eq_false, or_false] at hlt ⊢
          omega
        · simp only [hminus, and_false, iff_false, not_false_eq_true, or_true, iff_true] at hlt ⊢
          omega
      rw [← hnonneg, hp]
      split
      · simp only [opposite]
        split
        · omega
        · omega
      · omega

theorem minus_behind_sign_read :
    (ofString? "--0005-01-01T00:00:00Z").map (·.year) = some 5 ∧
      (ofString? "+-0005-01-01T00:00:00Z").map (·.year) = some (-5) ∧
        (ofString? "--9223372036854775808-01-01T00:00:00Z").map (·.year) = some (-9223372036854775808) := by
  decide

end TimeParts

end EntityAudit
