import EntityAudit.Decimal.Layout
import EntityAudit.Proofs.Decimal.Shortest
import EntityAudit.Proofs.Json.Token

/-!
A finite number is told by its text (`Layout.text_injective`). Digits with a point among them and a power of ten
behind them have one value, however they are laid out.
-/

namespace EntityAudit.Decimal

def mantissaOf (cs : List Char) : ℚ :=
  let fraction := (cs.dropWhile (· ≠ '.')).drop 1
  Nat.ofDigitChars 10 (cs.takeWhile (· ≠ '.') ++ fraction) 0 * 10 ^ (-(fraction.length : Int))

def exponentOf : List Char → Int
  | [] => 0
  | c :: cs => if c = '-' then -(Nat.ofDigitChars 10 cs 0 : Int) else Nat.ofDigitChars 10 cs 0

def valueOf (cs : List Char) : ℚ :=
  mantissaOf (cs.takeWhile (· ≠ 'e')) * 10 ^ exponentOf ((cs.dropWhile (· ≠ 'e')).drop 1)

section

variable {cs ds : List Char} {c : Char} {n : Nat}

lemma ne_of_notMem (h : c ∉ cs) : ∀ d ∈ cs, decide (d ≠ c) = true :=
  fun _ hd => decide_eq_true fun heq => h (heq ▸ hd)

lemma takeWhile_of_notMem (h : c ∉ cs) (r : List Char) : (cs ++ c :: r).takeWhile (· ≠ c) = cs := by
  rw [List.takeWhile_append_of_pos (ne_of_notMem h), List.takeWhile_cons_of_neg (by simp), List.append_nil]

lemma dropWhile_of_notMem (h : c ∉ cs) (r : List Char) : (cs ++ c :: r).dropWhile (· ≠ c) = c :: r := by
  rw [List.dropWhile_append_of_pos (ne_of_notMem h), List.dropWhile_cons_of_neg (by simp)]

lemma mantissaOf_point (h : '.' ∉ cs) :
    mantissaOf (cs ++ '.' :: ds) = Nat.ofDigitChars 10 (cs ++ ds) 0 * 10 ^ (-(ds.length : Int)) := by
  unfold mantissaOf
  simp only [takeWhile_of_notMem h, dropWhile_of_notMem h, List.drop_one, List.tail_cons]

lemma mantissaOf_whole (h : '.' ∉ cs) : mantissaOf cs = Nat.ofDigitChars 10 cs 0 := by
  unfold mantissaOf
  rw [List.takeWhile_eq_self_iff.mpr (ne_of_notMem h), List.dropWhile_eq_nil_iff.mpr (ne_of_notMem h)]
  simp

lemma valueOf_plain (h : 'e' ∉ cs) : valueOf cs = mantissaOf cs := by
  unfold valueOf
  rw [List.takeWhile_eq_self_iff.mpr (ne_of_notMem h), List.dropWhile_eq_nil_iff.mpr (ne_of_notMem h)]
  simp [exponentOf]

lemma valueOf_exponent (h : 'e' ∉ cs) : valueOf (cs ++ 'e' :: ds) = mantissaOf cs * 10 ^ exponentOf ds := by
  unfold valueOf
  simp only [takeWhile_of_notMem h, dropWhile_of_notMem h, List.drop_one, List.tail_cons]

lemma ofDigitChars_zeros_append (n : Nat) (cs : List Char) :
    Nat.ofDigitChars 10 (List.replicate n '0' ++ cs) 0 = Nat.ofDigitChars 10 cs 0 := by
  rw [Nat.ofDigitChars_append, Nat.ofDigitChars_replicate_zero, Nat.mul_zero]

lemma ofDigitChars_append_zeros (cs : List Char) (n : Nat) :
    Nat.ofDigitChars 10 (cs ++ List.replicate n '0') 0 = 10 ^ n * Nat.ofDigitChars 10 cs 0 := by
  rw [Nat.ofDigitChars_append, Nat.ofDigitChars_replicate_zero]

lemma notMem_of_isDigit (h : ∀ d ∈ cs, d.isDigit = true) (hc : c.isDigit = false) : c ∉ cs := by
  intro hmem
  rw [h c hmem] at hc
  cases hc

lemma isDigit_zeros (h : ∀ d ∈ cs, d.isDigit = true) : ∀ d ∈ List.replicate n '0' ++ cs, d.isDigit = true := by
  intro d hd
  rcases List.mem_append.mp hd with hd | hd
  · rw [List.eq_of_mem_replicate hd]
    rfl
  · exact h d hd

lemma isDigit_append_zeros (h : ∀ d ∈ cs, d.isDigit = true) :
    ∀ d ∈ cs ++ List.replicate n '0', d.isDigit = true := by
  intro d hd
  rcases List.mem_append.mp hd with hd | hd
  · exact h d hd
  · rw [List.eq_of_mem_replicate hd]
    rfl

end

variable {digits : List Char} {exponent : Int}

lemma valueOf_positionalText (hdigits : ∀ c ∈ digits, c.isDigit = true) :
    valueOf (positionalText digits exponent ".0").toList =
      Nat.ofDigitChars 10 digits 0 * 10 ^ exponent := by
  unfold positionalText
  split
  · rename_i hexponent
    obtain ⟨n, rfl⟩ := Int.eq_ofNat_of_zero_le hexponent
    have hwhole : ∀ c ∈ digits ++ List.replicate n '0', c.isDigit = true := isDigit_append_zeros hdigits
    have htext : (String.ofList (digits ++ List.replicate (n : Int).toNat '0') ++ ".0").toList =
        (digits ++ List.replicate n '0') ++ '.' :: ['0'] := by
      rw [String.toList_append, String.toList_ofList, Int.toNat_natCast]
      rfl
    have hplain : 'e' ∉ (digits ++ List.replicate n '0') ++ '.' :: ['0'] := by
      rw [List.mem_append, not_or]
      exact ⟨notMem_of_isDigit hwhole rfl, by decide⟩
    have hzeros : Nat.ofDigitChars 10 (digits ++ List.replicate n '0' ++ ['0']) 0 =
        10 ^ (n + 1) * Nat.ofDigitChars 10 digits 0 := by
      rw [← ofDigitChars_append_zeros, List.append_assoc, List.replicate_succ']
    rw [htext, valueOf_plain hplain, mantissaOf_point (notMem_of_isDigit hwhole rfl), hzeros]
    push_cast
    rw [List.length_singleton, Nat.cast_one, zpow_neg_one, zpow_natCast, pow_succ]
    field_simp
  · rename_i hexponent
    obtain ⟨n, rfl⟩ := Int.exists_eq_neg_ofNat (Int.le_of_lt (Int.not_le.mp hexponent))
    dsimp only
    rw [Int.natAbs_neg, Int.natAbs_natCast, String.toList_ofList]
    have hpadded := isDigit_zeros (n := n + 1 - digits.length) hdigits
    have hvalue : Nat.ofDigitChars 10 (List.replicate (n + 1 - digits.length) '0' ++ digits) 0 =
        Nat.ofDigitChars 10 digits 0 := ofDigitChars_zeros_append _ _
    have hlength : n ≤ (List.replicate (n + 1 - digits.length) '0' ++ digits).length := by
      rw [List.length_append, List.length_replicate]
      omega
    revert hpadded hvalue hlength
    generalize List.replicate (n + 1 - digits.length) '0' ++ digits = padded
    intro hpadded hvalue hlength
    have hplain : 'e' ∉ padded.take (padded.length - n) ++ '.' :: padded.drop (padded.length - n) := by
      rw [List.mem_append, List.mem_cons, not_or, not_or]
      exact ⟨fun h => notMem_of_isDigit hpadded rfl (List.mem_of_mem_take h), by decide,
        fun h => notMem_of_isDigit hpadded rfl (List.mem_of_mem_drop h)⟩
    have hfraction : (padded.drop (padded.length - n)).length = n := by
      rw [List.length_drop]
      omega
    have hpoint : '.' ∉ padded.take (padded.length - n) :=
      fun h => notMem_of_isDigit hpadded rfl (List.mem_of_mem_take h)
    rw [valueOf_plain hplain, mantissaOf_point hpoint, List.take_append_drop, hvalue, hfraction]

lemma exponentOf_signed (n : Int) :
    exponentOf ((if n < 0 then "-" else "+") ++ toString n.natAbs).toList = n := by
  have hdigits : Nat.ofDigitChars 10 (toString n.natAbs).toList 0 = n.natAbs := by
    rw [Nat.toString_eq_repr, Nat.toList_repr, Nat.ofDigitChars_ten_toDigits]
  by_cases hn : n < 0
  · have htext : ((if n < 0 then "-" else "+") ++ toString n.natAbs).toList =
        '-' :: (toString n.natAbs).toList := by
      rw [if_pos hn, String.toList_append]
      rfl
    rw [htext, exponentOf, if_pos rfl, hdigits]
    omega
  · have htext : ((if n < 0 then "-" else "+") ++ toString n.natAbs).toList =
        '+' :: (toString n.natAbs).toList := by
      rw [if_neg hn, String.toList_append]
      rfl
    rw [htext, exponentOf, if_neg (by decide), hdigits]
    omega

lemma valueOf_scientificText (hdigits : ∀ c ∈ digits, c.isDigit = true) (hne : digits ≠ []) :
    valueOf (scientificText digits exponent).toList =
      Nat.ofDigitChars 10 digits 0 * 10 ^ (exponent + 1 - digits.length) := by
  have htext (mantissa : List Char) : (String.ofList mantissa ++ "e" ++ (if exponent < 0 then "-" else "+") ++
      toString exponent.natAbs).toList =
        mantissa ++ 'e' :: ((if exponent < 0 then "-" else "+") ++ toString exponent.natAbs).toList := by
    simp [String.toList_append]
  unfold scientificText
  dsimp only
  rw [htext]
  split
  · exact absurd rfl hne
  · rename_i c
    have hc : ∀ d ∈ [c], d.isDigit = true := hdigits
    rw [valueOf_exponent (notMem_of_isDigit hc rfl), mantissaOf_whole (notMem_of_isDigit hc rfl),
      exponentOf_signed, List.length_singleton]
    simp
  · rename_i c cs _
    obtain ⟨hc, hcs⟩ := List.forall_mem_cons.mp hdigits
    have hhead : ∀ d ∈ [c], d.isDigit = true := by simpa using hc
    have hplain : 'e' ∉ c :: '.' :: cs := by
      rw [List.mem_cons, List.mem_cons, not_or, not_or]
      refine ⟨?_, by decide, notMem_of_isDigit hcs rfl⟩
      rintro rfl
      cases hc
    have hmantissa : mantissaOf ([c] ++ '.' :: cs) = Nat.ofDigitChars 10 ([c] ++ cs) 0 * 10 ^ (-(cs.length : Int)) :=
      mantissaOf_point (notMem_of_isDigit hhead rfl)
    rw [List.singleton_append, List.singleton_append] at hmantissa
    rw [valueOf_exponent hplain, hmantissa, exponentOf_signed, mul_assoc, ← zpow_add₀ (by norm_num)]
    congr 2
    rw [List.length_cons]
    push_cast
    ring

lemma head?_positionalText (hdigits : ∀ c ∈ digits, c.isDigit = true) (hne : digits ≠ []) :
    ∀ c ∈ (positionalText digits exponent ".0").toList.head?, c.isDigit = true := by
  unfold positionalText
  split
  · rw [String.toList_append, String.toList_ofList, List.append_assoc, List.head?_append_of_ne_nil _ hne]
    exact fun c hc => hdigits c (List.mem_of_head? hc)
  · dsimp only
    have hpadded := isDigit_zeros (n := exponent.natAbs + 1 - digits.length) hdigits
    have hlength : exponent.natAbs <
        (List.replicate (exponent.natAbs + 1 - digits.length) '0' ++ digits).length := by
      rw [List.length_append, List.length_replicate]
      omega
    rw [String.toList_ofList]
    revert hpadded hlength
    generalize List.replicate (exponent.natAbs + 1 - digits.length) '0' ++ digits = padded
    intro hpadded hlength c hc
    have hcut : padded.take (padded.length - exponent.natAbs) ≠ [] := by
      rw [Ne, List.take_eq_nil_iff]
      rintro (hzero | rfl)
      · omega
      · cases hlength
    rw [List.head?_append_of_ne_nil _ hcut] at hc
    exact hpadded c (List.mem_of_mem_take (List.mem_of_head? hc))

lemma head?_scientificText (hdigits : ∀ c ∈ digits, c.isDigit = true) (hne : digits ≠ []) :
    ∀ c ∈ (scientificText digits exponent).toList.head?, c.isDigit = true := by
  unfold scientificText
  simp only [String.toList_append, String.toList_ofList, List.append_assoc]
  cases digits with
  | nil => exact absurd rfl hne
  | cons d ds =>
    have hd := hdigits d List.mem_cons_self
    cases ds with
    | nil =>
      rintro c ⟨⟩
      exact hd
    | cons b ds =>
      rintro c ⟨⟩
      exact hd

def Layout.magnitude (layout : Layout) (x : Float) : String :=
  let d := (Binary.ofFloat x).shortest
  let digits := Nat.toDigits 10 d.digits
  let first := d.exponent + (digits.length : Int) - 1
  if d.digits = 0 ∨ layout.positional first then positionalText digits d.exponent layout.whole
  else scientificText digits first

def signText (x : Float) : String := if 9223372036854775808 ≤ x.toBits.toNat then "-" else ""

lemma isFinite_iff {x : Float} : x.isFinite = true ↔ x.isNaN = false ∧ x.isInf = false := by
  change x.toModel.unpack.isFinite = true ↔ x.toModel.unpack.isNaN = false ∧ x.toModel.unpack.isInf = false
  cases x.toModel.unpack with
  | infinity s => exact iff_of_false Bool.false_ne_true fun h => Bool.noConfusion h.2
  | notANumber => exact iff_of_false Bool.false_ne_true fun h => Bool.noConfusion h.1
  | zero s => exact iff_of_true rfl ⟨rfl, rfl⟩
  | finite s mantissa exponent hpos => exact iff_of_true rfl ⟨rfl, rfl⟩

variable {layout : Layout} {x y : Float}

lemma Layout.text_of_isFinite (layout : Layout) (h : x.isFinite = true) :
    layout.text x = signText x ++ layout.magnitude x := by
  obtain ⟨hnan, hinf⟩ := isFinite_iff.mp h
  unfold text magnitude signText
  simp only [hnan, hinf, Bool.false_eq_true, if_false]
  split
  · rfl
  · rfl

lemma Layout.valueOf_magnitude (hwhole : layout.whole = ".0") (x : Float) :
    valueOf (layout.magnitude x).toList = (Binary.ofFloat x).shortest.value := by
  have hdigits : ∀ c ∈ Nat.toDigits 10 (Binary.ofFloat x).shortest.digits, c.isDigit = true :=
    fun c hc => Json.Token.isDigit_of_mem_toDigits hc
  unfold magnitude
  dsimp only
  split
  · rw [hwhole, valueOf_positionalText hdigits, Nat.ofDigitChars_ten_toDigits]
    rfl
  · rw [valueOf_scientificText hdigits Nat.toDigits_ne_nil, Nat.ofDigitChars_ten_toDigits, Digits.value]
    congr 2
    ring

lemma Layout.head?_magnitude (hwhole : layout.whole = ".0") (x : Float) :
    ∀ c ∈ (layout.magnitude x).toList.head?, c.isDigit = true := by
  have hdigits : ∀ c ∈ Nat.toDigits 10 (Binary.ofFloat x).shortest.digits, c.isDigit = true :=
    fun c hc => Json.Token.isDigit_of_mem_toDigits hc
  unfold magnitude
  dsimp only
  split
  · rw [hwhole]
    exact head?_positionalText hdigits Nat.toDigits_ne_nil
  · exact head?_scientificText hdigits Nat.toDigits_ne_nil

lemma sign_and_rest {p q : Prop} [Decidable p] [Decidable q] {s t : String}
    (hs : ∀ c ∈ s.toList.head?, c.isDigit = true) (ht : ∀ c ∈ t.toList.head?, c.isDigit = true)
    (h : (if p then "-" else "") ++ s = (if q then "-" else "") ++ t) : (p ↔ q) ∧ s = t := by
  have hchars := congrArg String.toList h
  rw [String.toList_append, String.toList_append] at hchars
  have hminus : ∀ u v : String, (∀ c ∈ u.toList.head?, c.isDigit = true) →
      "".toList ++ u.toList ≠ "-".toList ++ v.toList := by
    intro u v hu heq
    have hhead : '-' ∈ u.toList.head? := by
      change u.toList = '-' :: v.toList at heq
      rw [heq]
      rfl
    cases hu '-' hhead
  by_cases hp : p
  · by_cases hq : q
    · rw [if_pos hp, if_pos hq] at hchars
      exact ⟨iff_of_true hp hq, String.toList_injective (List.append_cancel_left hchars)⟩
    · rw [if_pos hp, if_neg hq] at hchars
      exact absurd hchars.symm (hminus t s ht)
  · by_cases hq : q
    · rw [if_neg hp, if_pos hq] at hchars
      exact absurd hchars (hminus s t hs)
    · rw [if_neg hp, if_neg hq] at hchars
      exact ⟨iff_of_false hp hq, String.toList_injective (List.append_cancel_left hchars)⟩

theorem Layout.text_injective (hwhole : layout.whole = ".0") (hx : x.isFinite = true) (hy : y.isFinite = true)
    (h : layout.text x = layout.text y) : x = y := by
  rw [text_of_isFinite layout hx, text_of_isFinite layout hy] at h
  obtain ⟨hsign, hmagnitude⟩ := sign_and_rest (head?_magnitude hwhole x) (head?_magnitude hwhole y) h
  have hvalue : (Binary.ofFloat x).shortest.value = (Binary.ofFloat y).shortest.value := by
    rw [← valueOf_magnitude hwhole x, ← valueOf_magnitude hwhole y, hmagnitude]
  have hround := Binary.roundsFrom_shortest (Binary.isCanonical_ofFloat x)
  rw [hvalue] at hround
  have hbinary := Binary.eq_of_roundsFrom (Binary.isCanonical_ofFloat x) (Binary.isCanonical_ofFloat y) hround
    (Binary.roundsFrom_shortest (Binary.isCanonical_ofFloat y))
  exact Json.float_eq_of_toBits (Binary.toBits_eq_of_ofFloat hbinary hsign)

end EntityAudit.Decimal
