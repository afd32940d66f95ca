import EntityAudit.Text.Blank
import EntityAudit.Text.Integer
import EntityAudit.Text.Split
import Mathlib.Data.List.Basic
import Mathlib.Data.Nat.Digits.Defs
import Mathlib.Tactic.IntervalCases
import Mathlib.Tactic.Ring

namespace EntityAudit.Text

lemma digit?_of_isDigit {c : Char} (h : c.isDigit = true) : digit? c = some (c.toNat - '0'.toNat) := by
  rw [Char.isDigit_iff_toNat] at h
  exact if_pos ⟨Char.le_def.mpr h.1, Char.le_def.mpr h.2⟩

lemma isDigit_of_charIsDigit {c : Char} (h : c.isDigit = true) : isDigit c = true := by
  rw [isDigit, digit?_of_isDigit h]
  rfl

lemma appendDigits?_of_isDigit {cs : List Char} (h : ∀ c ∈ cs, c.isDigit = true) (n : Nat) :
    appendDigits? n cs = some (Nat.ofDigitChars 10 cs n) := by
  induction cs generalizing n with
  | nil => simp [appendDigits?]
  | cons c cs ih =>
    rw [appendDigits?, digit?_of_isDigit (h c List.mem_cons_self), Option.bind_some,
      ih fun d hd => h d (List.mem_cons_of_mem _ hd), Nat.ofDigitChars_cons]

lemma toList_zeroPadded (width n : Nat) :
    (zeroPadded width n).toList =
      List.replicate (width - (toString n).length) '0' ++ Nat.toDigits 10 n := by
  simp [zeroPadded]

lemma isDigit_of_mem_zeroPadded {width n : Nat} {c : Char} (h : c ∈ (zeroPadded width n).toList) :
    c.isDigit = true := by
  rw [toList_zeroPadded, List.mem_append] at h
  rcases h with h | h
  · rw [List.eq_of_mem_replicate h]
    rfl
  · exact Nat.isDigit_of_mem_toDigits (by decide) (by decide) h

lemma not_mem_zeroPadded {width n : Nat} {c : Char} (h : c.isDigit = false) :
    c ∉ (zeroPadded width n).toList := by
  intro hc
  rw [isDigit_of_mem_zeroPadded hc] at h
  cases h

lemma length_zeroPadded {width n : Nat} (hwidth : 0 < width) (h : n < 10 ^ width) :
    (zeroPadded width n).toList.length = width := by
  have hle := Nat.toDigits_length 10 n width hwidth h
  have htext : (toString n).length = (Nat.toDigits 10 n).length := by simp [← String.length_toList]
  rw [toList_zeroPadded, List.length_append, List.length_replicate, htext, Nat.sub_add_cancel hle]

lemma zeroPadded_ne_nil (width n : Nat) : (zeroPadded width n).toList ≠ [] := by
  rw [toList_zeroPadded]
  exact List.append_ne_nil_of_right_ne_nil _ Nat.toDigits_ne_nil

lemma isDigit_zeroPadded {width n : Nat} {c : Char} (h : c ∈ (zeroPadded width n).toList) :
    isDigit c = true :=
  isDigit_of_charIsDigit (isDigit_of_mem_zeroPadded h)

lemma isBlank_of_isDigit {c : Char} (h : c.isDigit = true) : isBlank c = false := by
  rw [Char.isDigit_iff_toNat] at h
  have hl : 48 ≤ c.toNat := h.1
  have hh : c.toNat ≤ 57 := h.2
  simp only [isBlank, Bool.or_eq_false_iff, Bool.and_eq_false_iff, decide_eq_false_iff_not, beq_eq_false_iff_ne]
  omega

lemma trimStart_cons {c : Char} {cs : List Char} (h : isBlank c = false) : trimStart (c :: cs) = c :: cs := by
  rw [trimStart, List.dropWhile_cons_of_neg (by simp [h])]

lemma exists_zeroPadded (width n : Nat) :
    ∃ c cs, (zeroPadded width n).toList = c :: cs ∧ c.isDigit = true := by
  obtain ⟨c, cs, hcs⟩ := List.exists_cons_of_ne_nil (zeroPadded_ne_nil width n)
  exact ⟨c, cs, hcs, isDigit_of_mem_zeroPadded (hcs ▸ List.mem_cons_self)⟩

lemma trimStart_zeroPadded {width n : Nat} {r : List Char} :
    trimStart ((zeroPadded width n).toList ++ r) = (zeroPadded width n).toList ++ r := by
  obtain ⟨c, cs, hcs, hc⟩ := exists_zeroPadded width n
  rw [hcs, List.cons_append, trimStart_cons (isBlank_of_isDigit hc)]

lemma digits?_zeroPadded (width n : Nat) : digits? (zeroPadded width n).toList = some n := by
  have hdigits : ∀ c ∈ (zeroPadded width n).toList, c.isDigit = true :=
    fun c hc => isDigit_of_mem_zeroPadded hc
  rw [digits?.eq_2 _ (zeroPadded_ne_nil width n), appendDigits?_of_isDigit hdigits,
    toList_zeroPadded, Nat.ofDigitChars_append, Nat.ofDigitChars_replicate_zero, Nat.mul_zero,
    Nat.ofDigitChars_ten_toDigits]

lemma natural?_zeroPadded {limit width n : Nat} (h : n < limit) :
    natural? limit (zeroPadded width n).toList = some n := by
  have hplus : ∀ cs, (zeroPadded width n).toList = '+' :: cs → False := by
    intro cs hcs
    have hmem : '+' ∈ (zeroPadded width n).toList := hcs ▸ List.mem_cons_self
    exact not_mem_zeroPadded rfl hmem
  rw [natural?.eq_2 _ _ hplus, digits?_zeroPadded]
  simp [h]

lemma natural?_toString {limit n : Nat} (h : n < limit) : natural? limit (toString n).toList = some n := by
  have htext : zeroPadded 0 n = toString n := by simp [zeroPadded]
  rw [← htext, natural?_zeroPadded h]

lemma integer?_zeroPadded {low high : Int} {width n : Nat} (hl : low ≤ n) (hh : (n : Int) < high) :
    integer? low high (zeroPadded width n).toList = some (n : Int) := by
  have hsign : ∀ c, c.isDigit = false → ∀ cs, (zeroPadded width n).toList = c :: cs → False := by
    intro c hc cs hcs
    have hmem : c ∈ (zeroPadded width n).toList := hcs ▸ List.mem_cons_self
    exact not_mem_zeroPadded hc hmem
  rw [integer?.eq_3 _ _ _ (hsign '-' rfl) (hsign '+' rfl), digits?_zeroPadded]
  simp [hl, hh]

lemma integer?_sign {low high i : Int} {cs : List Char} (h : integer? low high cs = some i) :
    (∃ ds, cs = '-' :: ds) ∧ i ≤ 0 ∨ (∀ ds, cs ≠ '-' :: ds) ∧ 0 ≤ i := by
  have hvalue : ∀ (ds : List Char) (f : Int → Int) (q : Int → Bool),
      (((digits? ds : Option Nat) : Option Int).map f).filter q = some i → ∃ n : Nat, f n = i := by
    intro ds f q h
    obtain ⟨j, hj, hi⟩ := Option.map_eq_some_iff.mp (Option.filter_eq_some_iff.mp h).1
    obtain ⟨n, -, hn⟩ := Option.bind_eq_some_iff.mp hj
    exact ⟨n, Option.some.inj hn ▸ hi⟩
  unfold integer? at h
  split at h
  · obtain ⟨n, hn⟩ := hvalue _ _ _ h
    exact .inl ⟨⟨_, rfl⟩, by omega⟩
  · obtain ⟨n, hn⟩ := hvalue _ _ _ h
    exact .inr ⟨fun ds => by simp, by omega⟩
  · rename_i hminus hplus
    obtain ⟨n, hn⟩ := hvalue _ _ _ h
    exact .inr ⟨hminus, by omega⟩

lemma digit?_eq_some_zero {c : Char} : digit? c = some 0 ↔ c = '0' := by
  constructor
  · intro h
    unfold digit? at h
    split at h
    · rename_i hc
      have hle := Char.le_def.mp hc.1
      rw [Option.some.injEq, Nat.sub_eq_zero_iff_le] at h
      exact Char.toNat_inj.mp (Nat.le_antisymm h hle)
    · cases h
  · rintro rfl
    rfl

lemma appendDigits?_eq_some_zero {n : Nat} {cs : List Char} :
    appendDigits? n cs = some 0 ↔ n = 0 ∧ ∀ c ∈ cs, c = '0' := by
  induction cs generalizing n with
  | nil => simp [appendDigits?]
  | cons c cs ih =>
    rw [appendDigits?, Option.bind_eq_some_iff]
    constructor
    · rintro ⟨d, hd, h⟩
      obtain ⟨hn, hcs⟩ := ih.mp h
      obtain rfl : d = 0 := by omega
      exact ⟨by omega, List.forall_mem_cons.mpr ⟨digit?_eq_some_zero.mp hd, hcs⟩⟩
    · rintro ⟨rfl, hcs⟩
      obtain ⟨hc, hcs⟩ := List.forall_mem_cons.mp hcs
      exact ⟨0, digit?_eq_some_zero.mpr hc, ih.mpr ⟨rfl, hcs⟩⟩

lemma digits?_eq_some_zero {cs : List Char} :
    digits? cs = some 0 ↔ ∃ k, cs = List.replicate (k + 1) '0' := by
  cases cs with
  | nil => simp [digits?]
  | cons c cs =>
    rw [digits?.eq_2 _ (List.cons_ne_nil c cs), appendDigits?_eq_some_zero]
    constructor
    · rintro ⟨-, h⟩
      exact ⟨cs.length, List.eq_replicate_of_mem h⟩
    · rintro ⟨k, hk⟩
      exact ⟨rfl, fun d hd => List.eq_of_mem_replicate (hk ▸ hd)⟩

lemma digit?_lt {c : Char} {d : Nat} (h : digit? c = some d) : d < 10 := by
  unfold digit? at h
  split at h
  · rename_i hc
    obtain rfl := Option.some.inj h
    have hle := Char.le_def.mp hc.2
    change c.toNat ≤ 57 at hle
    change c.toNat - 48 < 10
    omega
  · cases h

lemma appendDigits?_lt {k n : Nat} {cs : List Char} (h : appendDigits? k cs = some n) :
    n < (k + 1) * 10 ^ cs.length := by
  induction cs generalizing k with
  | nil =>
    obtain rfl := Option.some.inj h
    simp
  | cons c cs ih =>
    obtain ⟨d, hd, h⟩ := Option.bind_eq_some_iff.mp h
    calc n < (10 * k + d + 1) * 10 ^ cs.length := ih h
      _ ≤ (10 * (k + 1)) * 10 ^ cs.length := Nat.mul_le_mul_right _ (by have := digit?_lt hd; omega)
      _ = (k + 1) * 10 ^ (c :: cs).length := by rw [List.length_cons, Nat.pow_succ]; ring

lemma digits?_lt {n : Nat} {cs : List Char} (h : digits? cs = some n) : n < 10 ^ cs.length := by
  cases cs with
  | nil => cases h
  | cons c cs => simpa using appendDigits?_lt h

lemma head?_toDigits {n : Nat} (h : n ≠ 0) : (Nat.toDigits 10 n).head? ≠ some '0' := by
  induction n using Nat.strong_induction_on with
  | h n ih =>
    by_cases hn : n < 10
    · rw [Nat.toDigits_of_lt_base hn]
      interval_cases n
      · exact absurd rfl h
      all_goals decide
    · rw [Nat.toDigits_of_base_le (by decide) (by omega), List.head?_append_of_ne_nil _ Nat.toDigits_ne_nil]
      exact ih (n / 10) (by omega) (by omega)

lemma splitOnce?_append {sep : Char} {a b : List Char} (h : sep ∉ a) :
    splitOnce? sep (a ++ sep :: b) = some (a, b) := by
  induction a with
  | nil => simp [splitOnce?]
  | cons c a ih =>
    obtain ⟨hc, ha⟩ := not_or.mp (List.mem_cons.not.mp h)
    rw [List.cons_append, splitOnce?, if_neg (Ne.symm hc), ih ha]
    rfl

lemma splitLast?_append {sep : Char} {a b : List Char} (h : sep ∉ b) :
    splitLast? sep (a ++ sep :: b) = some (a, b) := by
  have hreverse : (a ++ sep :: b).reverse = b.reverse ++ sep :: a.reverse := by simp
  rw [splitLast?, hreverse, splitOnce?_append (by simpa using h)]
  simp

lemma splitLast?_eq_some {sep : Char} {cs a b : List Char} (h : splitLast? sep cs = some (a, b)) :
    cs = a ++ sep :: b := by
  obtain ⟨⟨x, y⟩, hsplit, heq⟩ := Option.map_eq_some_iff.mp h
  obtain ⟨rfl, rfl⟩ := Prod.mk.inj heq
  rw [← List.reverse_reverse cs, splitOnce?_eq_some hsplit]
  simp

lemma splitAll_eq_splitOn (sep : Char) (cs : List Char) : splitAll sep cs = cs.splitOn sep := by
  induction cs with
  | nil => rfl
  | cons c cs ih =>
    rw [splitAll, ih, List.splitOn_cons_eq_if_modifyHead]
    by_cases hc : c = sep
    · rw [if_pos hc, if_pos (beq_iff_eq.mpr hc)]
    · rw [if_neg hc, if_neg (beq_iff_eq.not.mpr hc)]
      cases hparts : cs.splitOn sep with
      | nil => exact absurd hparts (List.splitOn_ne_nil _ _)
      | cons part parts => rfl

end EntityAudit.Text
