import EntityAudit.Json.Token
import EntityAudit.Json.Writer
import EntityAudit.Proofs.Text.Number
import Mathlib.Data.List.TakeWhile
import Mathlib.Tactic.IntervalCases

namespace EntityAudit.Json

namespace Token

lemma char?_controlText {n : Nat} (h : n < 0x20) (r : List Char) :
    char? ((controlText (Char.ofNat n)).toList ++ r) = some (some (Char.ofNat n), r) := by
  interval_cases n
  all_goals rfl

lemma char?_plain {c : Char} (hquote : c ≠ '"') (hslash : c ≠ '\\') (hcontrol : ¬ c.toNat < 0x20)
    (r : List Char) : char? (c :: r) = some (some c, r) := by
  rw [char?.eq_4 _ _ hquote (fun _ _ _ _ _ h => absurd h hslash) (fun _ _ h => absurd h hslash), if_neg hcontrol]

lemma char?_escape (c : Char) (r : List Char) :
    char? ((escape c).toList ++ r) = some (some c, r) := by
  have hchar : ∀ n, c.toNat = n → c = Char.ofNat n := by
    rintro n rfl
    exact (Char.ofNat_toNat c).symm
  unfold escape
  split
  · subst c
    rfl
  split
  · subst c
    rfl
  split
  · rw [hchar 8 ‹_›]
    rfl
  split
  · rw [hchar 12 ‹_›]
    rfl
  split
  · subst c
    rfl
  split
  · subst c
    rfl
  split
  · subst c
    rfl
  split
  · rw [hchar _ rfl]
    exact char?_controlText ‹_› r
  · simpa using char?_plain ‹_› ‹_› ‹_› r

lemma text?_of_char? {cs r : List Char} {c : Char} (h : char? cs = some (some c, r)) :
    text? cs = (text? r).map fun (t, r') => (c :: t, r') := by
  rw [text?]
  split
  · simp_all
  · simp_all
  · simp_all

lemma text?_escape (s r : List Char) :
    text? (s.flatMap (fun c => (escape c).toList) ++ '"' :: r) = some (s, r) := by
  induction s with
  | nil =>
    rw [List.flatMap_nil, List.nil_append, text?]
    rfl
  | cons c s ih =>
    rw [List.flatMap_cons, List.append_assoc, text?_of_char? (char?_escape c _), ih]
    rfl

lemma next?_quote (s : String) (r : List Char) :
    next? ((quote s).toList ++ r) = some (text s, r) := by
  have htext : (quote s).toList ++ r = '"' :: (s.toList.flatMap (fun c => (escape c).toList) ++ '"' :: r) := by
    simp [quote, List.flatMap_map]
  rw [htext]
  simp [next?, start?, isBlank, text?_escape]

def EndsNumber (r : List Char) : Prop := ∀ c ∈ r.head?, isNumeric c = false

lemma start?_of_isNumeric {c : Char} (h : isNumeric c = true) (r : List Char) :
    start? c r = (number? (c :: r.takeWhile isNumeric)).map fun j => (scalar j, r.dropWhile isNumeric) := by
  have hne : ∀ d, isNumeric d = false → c ≠ d := by
    rintro d hd rfl
    rw [h] at hd
    cases hd
  simp only [start?, hne '[' rfl, hne ']' rfl, hne '\x7b' rfl, hne '\x7d' rfl, hne ',' rfl, hne ':' rfl,
    hne '"' rfl, h, if_false, if_true]

lemma next?_number {cs r : List Char} {j : Json} (h : number? cs = some j)
    (hcs : ∀ c ∈ cs, isNumeric c = true) (hr : EndsNumber r) :
    next? (cs ++ r) = some (scalar j, r) := by
  have htake : r.takeWhile isNumeric = [] := by
    cases r with
    | nil => rfl
    | cons d r => simp [hr d rfl]
  have hdrop : r.dropWhile isNumeric = r := by
    cases r with
    | nil => rfl
    | cons d r => simp [hr d rfl]
  cases cs with
  | nil => cases h
  | cons c cs =>
    obtain ⟨hc, hcs⟩ := List.forall_mem_cons.mp hcs
    have hblank : isBlank c = false := by
      rw [← Bool.not_eq_true]
      intro hb
      simp only [isBlank, decide_eq_true_eq] at hb
      rcases hb with rfl | rfl | rfl | rfl
      all_goals cases hc
    rw [List.cons_append, next?, hblank, if_neg Bool.false_ne_true, start?_of_isNumeric hc,
      List.takeWhile_append_of_pos hcs, List.dropWhile_append_of_pos hcs, htake, hdrop, List.append_nil, h]
    rfl

lemma significand_of_isDigit {cs : List Char} (hcs : ∀ c ∈ cs, c.isDigit = true) {start : Nat}
    (h : Nat.ofDigitChars 10 cs start < UInt64.size) :
    significand start cs = (Nat.ofDigitChars 10 cs start, 0) := by
  induction cs generalizing start with
  | nil => simp [significand]
  | cons c cs ih =>
    obtain ⟨hc, hcs⟩ := List.forall_mem_cons.mp hcs
    rw [Nat.ofDigitChars_cons] at h ⊢
    have hle : 10 * start + (c.toNat - '0'.toNat) ≤
        Nat.ofDigitChars 10 cs (10 * start + (c.toNat - '0'.toNat)) := by
      rw [Nat.ofDigitChars_eq_ofDigitChars_zero]
      have hpow : 0 < 10 ^ cs.length := Nat.pow_pos (by decide)
      have hmul := Nat.le_mul_of_pos_left (10 * start + (c.toNat - '0'.toNat)) hpow
      omega
    simp only [significand, Text.digit?_of_isDigit hc, if_pos (Nat.lt_of_le_of_lt hle h)]
    exact ih hcs h

lemma isDigit_of_mem_toDigits {n : Nat} {c : Char} (h : c ∈ Nat.toDigits 10 n) : c.isDigit = true :=
  Nat.isDigit_of_mem_toDigits (by decide) (by decide) h

lemma magnitude?_toDigits {n : Nat} (h : n < UInt64.size) :
    magnitude? (Nat.toDigits 10 n) = some (.inl n) := by
  have hdigits : ∀ c ∈ Nat.toDigits 10 n, Text.isDigit c = true :=
    fun c hc => Text.isDigit_of_charIsDigit (isDigit_of_mem_toDigits hc)
  have hwhole : (Nat.toDigits 10 n).takeWhile Text.isDigit = Nat.toDigits 10 n :=
    List.takeWhile_eq_self_iff.mpr hdigits
  have hrest : (Nat.toDigits 10 n).dropWhile Text.isDigit = [] := List.dropWhile_eq_nil_iff.mpr hdigits
  have hlead : ¬ ((Nat.toDigits 10 n).isEmpty = true ∨
      (Nat.toDigits 10 n).head? = some '0' ∧ 1 < (Nat.toDigits 10 n).length) := by
    rintro (hempty | ⟨hhead, hlength⟩)
    · exact Nat.toDigits_ne_nil (List.isEmpty_iff.mp hempty)
    · by_cases hn : n = 0
      · subst hn
        exact absurd hlength (by decide)
      · exact Text.head?_toDigits hn hhead
  have hvalue : significand 0 (Nat.toDigits 10 n) = (n, 0) := by
    rw [significand_of_isDigit (fun c hc => isDigit_of_mem_toDigits hc)
      (by rwa [Nat.ofDigitChars_ten_toDigits]), Nat.ofDigitChars_ten_toDigits]
  simp only [magnitude?, hwhole, hrest, if_neg hlead, hvalue]
  rfl

lemma number?_integer {n : Int} (hl : -9223372036854775808 ≤ n) (hh : n < UInt64.size) :
    number? (toString n).toList = some (integer n) := by
  rw [Int.toString_eq_repr, Int.repr_eq_if]
  by_cases hn : 0 ≤ n
  · have hsign : ∀ cs, Nat.toDigits 10 n.toNat ≠ '-' :: cs := by
      intro cs hcs
      have hmem : '-' ∈ Nat.toDigits 10 n.toNat := hcs ▸ List.mem_cons_self
      exact absurd (isDigit_of_mem_toDigits hmem) (by decide)
    rw [if_pos hn, Nat.toList_repr, number?.eq_2 _ hsign, magnitude?_toDigits (by omega), Option.map_some]
    simp only [Int.toNat_of_nonneg hn]
  · have hzero : ¬ ((-n).toNat = 0 ∨ 9223372036854775808 < (-n).toNat) := by omega
    have hvalue : -(((-n).toNat : Nat) : Int) = n := by omega
    have hsize : (-n).toNat < UInt64.size := by
      have : UInt64.size = 18446744073709551616 := rfl
      omega
    have htext : ("-" ++ (-n).toNat.repr).toList = '-' :: Nat.toDigits 10 (-n).toNat := by simp
    rw [if_neg hn, htext]
    simp only [number?, magnitude?_toDigits hsize, Option.map_some, if_neg hzero, hvalue]

lemma isNumeric_of_isDigit {c : Char} (h : c.isDigit = true) : isNumeric c = true := by
  simp [isNumeric, Text.isDigit_of_charIsDigit h]

lemma isNumeric_integer {n : Int} {c : Char} (h : c ∈ (toString n).toList) : isNumeric c = true := by
  rw [Int.toString_eq_repr, Int.repr_eq_if] at h
  split at h
  · rw [Nat.toList_repr] at h
    exact isNumeric_of_isDigit (isDigit_of_mem_toDigits h)
  · rw [String.toList_append, List.mem_append, Nat.toList_repr] at h
    rcases h with h | h
    · obtain rfl := List.mem_singleton.mp h
      rfl
    · exact isNumeric_of_isDigit (isDigit_of_mem_toDigits h)

section

variable {digits : List Char} {exponent : Int} {c : Char}

lemma isNumeric_positionalText (hdigits : ∀ d ∈ digits, d.isDigit = true)
    (h : c ∈ (Decimal.positionalText digits exponent ".0").toList) : isNumeric c = true := by
  have hzero : ∀ n, c ∈ List.replicate n '0' → isNumeric c = true := by
    intro n hc
    rw [List.eq_of_mem_replicate hc]
    rfl
  unfold Decimal.positionalText at h
  split at h
  · rw [String.toList_append, String.toList_ofList, List.append_assoc, List.mem_append, List.mem_append] at h
    rcases h with h | h | h
    · exact isNumeric_of_isDigit (hdigits c h)
    · exact hzero _ h
    · rcases List.mem_pair.mp h with rfl | rfl
      · rfl
      · rfl
  · dsimp only at h
    rw [String.toList_ofList, List.mem_append, List.mem_cons] at h
    have hpadded : ∀ n, c ∈ List.replicate n '0' ++ digits → isNumeric c = true := by
      intro n hc
      rcases List.mem_append.mp hc with hc | hc
      · exact hzero _ hc
      · exact isNumeric_of_isDigit (hdigits c hc)
    rcases h with h | rfl | h
    · exact hpadded _ (List.mem_of_mem_take h)
    · rfl
    · exact hpadded _ (List.mem_of_mem_drop h)

lemma isNumeric_scientificText (hdigits : ∀ d ∈ digits, d.isDigit = true)
    (h : c ∈ (Decimal.scientificText digits exponent).toList) : isNumeric c = true := by
  unfold Decimal.scientificText at h
  simp only [String.toList_append, String.toList_ofList, List.mem_append] at h
  rcases h with ((h | h) | h) | h
  · split at h
    · cases h
    · exact isNumeric_of_isDigit (hdigits c h)
    · rename_i d ds _
      rcases List.mem_cons.mp h with rfl | h
      · exact isNumeric_of_isDigit (hdigits _ List.mem_cons_self)
      · rcases List.mem_cons.mp h with rfl | h
        · rfl
        · exact isNumeric_of_isDigit (hdigits c (List.mem_cons_of_mem _ h))
  · obtain rfl := List.mem_singleton.mp h
    rfl
  · split at h
    · obtain rfl := List.mem_singleton.mp h
      rfl
    · obtain rfl := List.mem_singleton.mp h
      rfl
  · rw [Nat.toString_eq_repr, Nat.toList_repr] at h
    exact isNumeric_of_isDigit (isDigit_of_mem_toDigits h)

end

lemma numberLayout_text (x : Float) :
    numberLayout.text x = "null" ∨ numberLayout.text x = "-null" ∨
      ∀ c ∈ (numberLayout.text x).toList, isNumeric c = true := by
  unfold Decimal.Layout.text
  have hdigits : ∀ n, ∀ d ∈ Nat.toDigits 10 n, d.isDigit = true := fun n d hd => isDigit_of_mem_toDigits hd
  -- A sign in front of a numeric text keeps it numeric.
  have hsigned : ∀ (negative : Prop) [Decidable negative] (t : String), (∀ c ∈ t.toList, isNumeric c = true) →
      ∀ c ∈ ((if negative then "-" else "") ++ t).toList, isNumeric c = true := by
    intro negative _ t ht c hc
    rw [String.toList_append, List.mem_append] at hc
    rcases hc with hc | hc
    · split at hc
      · obtain rfl := List.mem_singleton.mp hc
        rfl
      · cases hc
    · exact ht c hc
  split
  · exact .inl rfl
  · dsimp only
    split
    · split
      · exact .inr (.inl rfl)
      · exact .inl rfl
    · split
      · exact .inr (.inr (hsigned _ _ fun c hc => isNumeric_positionalText (hdigits _) hc))
      · exact .inr (.inr (hsigned _ _ fun c hc => isNumeric_scientificText (hdigits _) hc))

end Token

/-- The text of a number is read as that number. Infinite and undefined numbers have no text. -/
def ReadsBack (x : Float) : Prop := Token.number? (floatText x).toList = some (float x)

lemma float_eq_of_toBits {x y : Float} (h : x.toBits = y.toBits) : x = y := by
  obtain ⟨⟨b, hb⟩⟩ := x
  obtain ⟨⟨c, hc⟩⟩ := y
  obtain rfl : b = c := h
  rfl

lemma readsBack_iff {x : Float} :
    ReadsBack x ↔ (match Token.number? (floatText x).toList with
      | some (float y) => y.toBits == x.toBits
      | _ => false) = true := by
  unfold ReadsBack
  split
  · rename_i y hy
    rw [hy, beq_iff_eq]
    constructor
    · intro h
      cases h
      rfl
    · intro h
      rw [float_eq_of_toBits h]
  · rename_i hother
    simp only [Bool.false_eq_true, iff_false]
    exact hother x

instance (x : Float) : Decidable (ReadsBack x) := decidable_of_iff _ readsBack_iff.symm

lemma isFinite_of_readsBack {x : Float} (h : ReadsBack x) : x.isFinite = true := by
  by_contra hfinite
  rw [ReadsBack, floatText, if_neg hfinite] at h
  cases h

namespace Token

lemma isNumeric_floatText {x : Float} (hx : ReadsBack x) {c : Char} (h : c ∈ (floatText x).toList) :
    isNumeric c = true := by
  have hne : ∀ s : String, number? s.toList = none → floatText x ≠ s := by
    rintro s hs rfl
    rw [ReadsBack, hs] at hx
    cases hx
  have hnull := hne "null" rfl
  have hminus := hne "-null" rfl
  rw [floatText, if_pos (isFinite_of_readsBack hx)] at h hnull hminus
  exact (((numberLayout_text x).resolve_left hnull).resolve_left hminus) c h

end Token

end EntityAudit.Json
