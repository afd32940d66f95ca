import EntityAudit.Decimal.Reading
import EntityAudit.Proofs.Decimal.Layout
import EntityAudit.Proofs.Decimal.Nearest

namespace EntityAudit.Decimal

open Float.Model
open Float.Model.UnpackedFloat (Sign)

/-! ## The power of ten of the shortest digits -/

lemma Digits.exponent_le_strip (d : Digits) : d.exponent ≤ d.strip.exponent := by
  induction d using Digits.strip.induct with
  | case1 d h ih =>
    rw [strip, dif_pos h]
    exact (Int.le_add_one le_rfl).trans ih
  | case2 d h => rw [strip, dif_neg h]

namespace Binary

variable {b : Binary} {d : Digits} {e : Int}

lemma exponent_of_onGrid? (h : b.onGrid? e = some d) : d.exponent = e := by
  unfold onGrid? at h
  dsimp only at h
  split at h
  · rw [← Option.some.inj h]
  · rw [← Option.some.inj h]
  · cases h
  · split at h
    · rw [← Option.some.inj h]
    · rw [← Option.some.inj h]
    · rw [← Option.some.inj h]
      split
      · rfl
      · rfl

lemma magnitude_ge (hb : b.IsCanonical) : -325 ≤ b.magnitude := by
  have hge := hb.exponent_ge
  have hestimate : -325 ≤ (b.exponent + b.significand.log2) * 30103 / 100000 - 1 := by omega
  unfold magnitude
  dsimp only
  cases hfound : ((List.range 5).map fun (i : Nat) =>
      (b.exponent + b.significand.log2) * 30103 / 100000 - 1 + (i : Int)).find?
        (fun k => compareScaled 1 k b.significand b.exponent == .gt) with
  | none =>
    rw [Option.getD_none]
    omega
  | some k =>
    obtain ⟨i, -, rfl⟩ := List.mem_map.mp (List.mem_of_find?_eq_some hfound)
    rw [Option.getD_some]
    omega

lemma exponent_shortest_ge (hb : b.IsCanonical) : -2000 ≤ b.shortest.exponent := by
  unfold shortest
  split
  · decide
  · refine le_trans ?_ (Digits.exponent_le_strip _)
    cases hfound : (List.range 17).findSome? fun (n : Nat) => b.onGrid? (b.magnitude - (n + 1 : Nat)) with
    | some d =>
      obtain ⟨n, hn, hgrid⟩ := List.exists_of_findSome?_eq_some hfound
      have hlt := List.mem_range.mp hn
      have hmagnitude := magnitude_ge hb
      simp only [Option.getD_some]
      rw [exponent_of_onGrid? hgrid]
      omega
    | none =>
      have hge := hb.exponent_ge
      simp only [Option.getD_none]
      omega

lemma digits_shortest_pos (hb : b.IsCanonical) (hpos : 0 < b.significand) : 0 < b.shortest.digits := by
  rw [Nat.pos_iff_ne_zero]
  intro hzero
  have hround := roundsFrom_shortest hb
  have hvalue : b.shortest.value = 0 := by rw [Digits.value, hzero, Nat.cast_zero, zero_mul]
  rw [hvalue] at hround
  have hlow : 0 < b.low := by
    unfold low
    split
    · omega
    · omega
  have hend : (0 : ℚ) < b.low * b.quarter := mul_pos (by exact_mod_cast hlow) b.quarter_pos
  rcases hround.above with h | ⟨-, h⟩
  · exact hend.not_gt h
  · exact hend.ne' h

end Binary

/-! ## Digits with a point among them -/

variable {digits fraction : List Char} {exponent : Int} {whole : String} {x : Float} {layout : Layout}

lemma digits?_of_isDigit (h : ∀ c ∈ digits, c.isDigit = true) (hne : digits ≠ []) :
    Text.digits? digits = some (Nat.ofDigitChars 10 digits 0) := by
  rw [Text.digits?.eq_2 _ hne, Text.appendDigits?_of_isDigit h]

lemma magnitude?_whole (h : ∀ c ∈ digits, c.isDigit = true) (hne : digits ≠ []) :
    magnitude? digits = some (nearest (Nat.ofDigitChars 10 digits 0) 0) := by
  have hdigits : ∀ c ∈ digits, Text.isDigit c = true := fun c hc => Text.isDigit_of_charIsDigit (h c hc)
  unfold magnitude?
  rw [List.takeWhile_eq_self_iff.mpr hdigits, List.dropWhile_eq_nil_iff.mpr hdigits]
  simp only [List.append_nil, digits?_of_isDigit h hne]
  rfl

lemma magnitude?_point (h : ∀ c ∈ digits ++ fraction, c.isDigit = true) (hne : digits ++ fraction ≠ []) :
    magnitude? (digits ++ '.' :: fraction) =
      some (nearest (Nat.ofDigitChars 10 (digits ++ fraction) 0) (-(fraction.length : Int))) := by
  have hall : ∀ c ∈ digits ++ fraction, Text.isDigit c = true := fun c hc => Text.isDigit_of_charIsDigit (h c hc)
  have hdigits : ∀ c ∈ digits, Text.isDigit c = true := fun c hc => hall c (List.mem_append_left _ hc)
  have hfraction : ∀ c ∈ fraction, Text.isDigit c = true := fun c hc => hall c (List.mem_append_right _ hc)
  unfold magnitude?
  rw [List.takeWhile_append_of_pos hdigits, List.dropWhile_append_of_pos hdigits,
    List.takeWhile_cons_of_neg (by decide), List.dropWhile_cons_of_neg (by decide)]
  simp only [List.append_nil, List.takeWhile_eq_self_iff.mpr hfraction, List.dropWhile_eq_nil_iff.mpr hfraction,
    digits?_of_isDigit h hne, exponent?, zero_sub]

lemma exists_magnitude?_positionalText (exponent : Int) (hwhole : whole ∈ ["", ".0"])
    (h : ∀ c ∈ digits, c.isDigit = true) (hne : digits ≠ []) :
    ∃ (n : Nat) (e : Int), magnitude? (positionalText digits exponent whole).toList = some (nearest n e) ∧
      min exponent (-1) ≤ e ∧ e ≤ 0 ∧ (n * 10 ^ e : ℚ) = Nat.ofDigitChars 10 digits 0 * 10 ^ exponent := by
  unfold positionalText
  split
  · rename_i hnonneg
    obtain ⟨k, rfl⟩ := Int.eq_ofNat_of_zero_le hnonneg
    have hdigits : ∀ c ∈ digits ++ List.replicate k '0', c.isDigit = true := isDigit_append_zeros h
    have hne' : digits ++ List.replicate k '0' ≠ [] := List.append_ne_nil_of_left_ne_nil hne _
    rw [Int.toNat_natCast]
    rcases List.mem_pair.mp hwhole with rfl | rfl
    · refine ⟨10 ^ k * Nat.ofDigitChars 10 digits 0, 0, ?_, by omega, le_rfl, ?_⟩
      · rw [String.append_empty, String.toList_ofList, magnitude?_whole hdigits hne', ofDigitChars_append_zeros]
      · rw [zpow_zero, zpow_natCast]
        push_cast
        ring
    · have hpoint : (String.ofList (digits ++ List.replicate k '0') ++ ".0").toList =
          (digits ++ List.replicate k '0') ++ '.' :: ['0'] := by
        rw [String.toList_append, String.toList_ofList]
        rfl
      have hzeros : digits ++ List.replicate k '0' ++ ['0'] = digits ++ List.replicate (k + 1) '0' := by
        rw [List.append_assoc, List.replicate_succ']
      refine ⟨10 ^ (k + 1) * Nat.ofDigitChars 10 digits 0, -1, ?_, min_le_right _ _, by decide, ?_⟩
      · rw [hpoint, magnitude?_point (by rw [hzeros]; exact isDigit_append_zeros h) (by simp), hzeros,
          ofDigitChars_append_zeros]
        rfl
      · rw [zpow_neg_one, zpow_natCast]
        push_cast
        rw [pow_succ]
        field_simp
  · rename_i hneg
    obtain ⟨k, rfl⟩ := Int.exists_eq_neg_ofNat (Int.le_of_lt (Int.not_le.mp hneg))
    dsimp only
    rw [Int.natAbs_neg, Int.natAbs_natCast, String.toList_ofList]
    have hpadded := isDigit_zeros (n := k + 1 - digits.length) h
    have hvalue : Nat.ofDigitChars 10 (List.replicate (k + 1 - digits.length) '0' ++ digits) 0 =
        Nat.ofDigitChars 10 digits 0 := ofDigitChars_zeros_append _ _
    have hlength : k < (List.replicate (k + 1 - digits.length) '0' ++ digits).length := by
      rw [List.length_append, List.length_replicate]
      omega
    revert hpadded hvalue hlength
    generalize List.replicate (k + 1 - digits.length) '0' ++ digits = padded
    intro hpadded hvalue hlength
    have hparts := List.take_append_drop (padded.length - k) padded
    have hfraction : (padded.drop (padded.length - k)).length = k := by
      rw [List.length_drop]
      omega
    refine ⟨Nat.ofDigitChars 10 digits 0, -(k : Int), ?_, min_le_left _ _, by omega, rfl⟩
    rw [magnitude?_point (by rwa [hparts]) (by rw [hparts]; exact List.ne_nil_of_length_pos (by omega)), hparts,
      hvalue, hfraction]

/-! ## The whole text -/

def isNumeral (c : Char) : Bool := c.isDigit || c == '.'

section

variable {c : Char} {cs : List Char}

lemma isNumeral_of_isDigit (h : c.isDigit = true) : isNumeral c = true := by
  rw [isNumeral, h, Bool.true_or]

lemma isNumeral_of_mem_positionalText (hwhole : whole ∈ ["", ".0"]) (h : ∀ c ∈ digits, c.isDigit = true)
    (hc : c ∈ (positionalText digits exponent whole).toList) : isNumeral c = true := by
  unfold positionalText at hc
  split at hc
  · rw [String.toList_append, String.toList_ofList, List.mem_append] at hc
    rcases hc with hc | hc
    · exact isNumeral_of_isDigit (isDigit_append_zeros h c hc)
    · rcases List.mem_pair.mp hwhole with rfl | rfl
      · cases hc
      · rcases List.mem_pair.mp hc with rfl | rfl
        · rfl
        · rfl
  · dsimp only at hc
    rw [String.toList_ofList, List.mem_append, List.mem_cons] at hc
    have hpadded := isDigit_zeros (n := exponent.natAbs + 1 - digits.length) h
    rcases hc with hc | rfl | hc
    · exact isNumeral_of_isDigit (hpadded c (List.mem_of_mem_take hc))
    · rfl
    · exact isNumeral_of_isDigit (hpadded c (List.mem_of_mem_drop hc))

lemma lower_of_isNumeral (h : isNumeral c = true) : lower c = c := by
  refine if_neg fun hc => ?_
  have hle : 65 ≤ c.toNat := Char.le_def.mp hc.1
  rcases Bool.or_eq_true _ _ ▸ h with hdigit | hpoint
  · have hge : c.toNat ≤ 57 := (Char.isDigit_iff_toNat.mp hdigit).2
    omega
  · obtain rfl := beq_iff_eq.mp hpoint
    exact absurd hle (by decide)

lemma ne_of_isNumeral {d : Char} (h : isNumeral c = true) (hd : isNumeral d = false) : c ≠ d := by
  rintro rfl
  rw [h] at hd
  cases hd

lemma words_of_isNumeral (hc : isNumeral c = true) :
    (match String.ofList (c :: cs) with
      | "inf" | "infinity" => some (1.0 / 0.0)
      | "nan" => some (0.0 / 0.0)
      | _ => magnitude? (c :: cs)) = magnitude? (c :: cs) := by
  have hword : ∀ d ds, isNumeral d = false → String.ofList (c :: cs) ≠ String.ofList (d :: ds) :=
    fun d ds hd h => ne_of_isNumeral hc hd (List.cons.inj (String.ofList_injective h)).1
  split
  · exact absurd ‹_› (hword 'i' ['n', 'f'] rfl)
  · exact absurd ‹_› (hword 'i' ['n', 'f', 'i', 'n', 'i', 't', 'y'] rfl)
  · exact absurd ‹_› (hword 'n' ['a', 'n'] rfl)
  · rfl

lemma float?_of_isNumeral (hcs : ∀ d ∈ c :: cs, isNumeral d = true) :
    float? (String.ofList (c :: cs)) = magnitude? (c :: cs) ∧
      float? (String.ofList ('-' :: c :: cs)) = (magnitude? (c :: cs)).map (- ·) := by
  have hc := hcs c List.mem_cons_self
  have hlower : (c :: cs).map lower = c :: cs :=
    (List.map_congr_left fun d hd => lower_of_isNumeral (hcs d hd)).trans (List.map_id' _)
  constructor
  · unfold float?
    rw [String.toList_ofList, hlower]
    dsimp only
    split
    · exact absurd (List.cons.inj ‹_›).1 (ne_of_isNumeral hc rfl)
    · exact absurd (List.cons.inj ‹_›).1 (ne_of_isNumeral hc rfl)
    · exact (congrArg (Option.map _) (words_of_isNumeral hc)).trans Option.map_id'
  · have hminus : lower '-' = '-' := rfl
    unfold float?
    rw [String.toList_ofList, List.map_cons, hlower, hminus]
    exact congrArg (Option.map fun x => -x) (words_of_isNumeral hc)

end

/-! ## The numbers -/

structure Layout.IsPositional (layout : Layout) : Prop where
  positional : ∀ e, layout.positional e = true
  whole : layout.whole ∈ ["", ".0"]

lemma plain_isPositional : plain.IsPositional := ⟨fun _ => rfl, by simp [plain]⟩

lemma Layout.IsPositional.magnitude_eq (h : layout.IsPositional) (x : Float) :
    layout.magnitude x = positionalText (Nat.toDigits 10 (Binary.ofFloat x).shortest.digits)
      (Binary.ofFloat x).shortest.exponent layout.whole :=
  if_pos (.inr (h.positional _))

lemma magnitude?_magnitude (hlayout : layout.IsPositional) (hfinite : x.isFinite = true)
    (hsign : signOf x = .positive) (hpos : 0 < (Binary.ofFloat x).significand) :
    magnitude? (layout.magnitude x).toList = some x := by
  have hb := Binary.isCanonical_ofFloat x
  have hround := Binary.roundsFrom_shortest hb
  have hexponent := Binary.exponent_shortest_ge hb
  have hdigits := Binary.digits_shortest_pos hb hpos
  rw [hlayout.magnitude_eq]
  generalize (Binary.ofFloat x).shortest = d at hround hexponent hdigits
  obtain ⟨n, e, hread, hlow, hhigh, hvalue⟩ := exists_magnitude?_positionalText d.exponent hlayout.whole
    (fun _ => Json.Token.isDigit_of_mem_toDigits) Nat.toDigits_ne_nil
  rw [Nat.ofDigitChars_ten_toDigits] at hvalue
  have hn : 0 < n := by
    have hten : (0 : ℚ) < 10 ^ e := zpow_pos (by norm_num) _
    have hprod : (0 : ℚ) < n * 10 ^ e := by
      rw [hvalue]
      exact mul_pos (by exact_mod_cast hdigits) (zpow_pos (by norm_num) _)
    exact_mod_cast (mul_pos_iff_of_pos_right hten).mp hprod
  rw [hread, nearest_eq_of_roundsFrom hfinite hsign hn (by omega) (by omega) (hvalue ▸ hround)]

lemma eq_of_ofFloat {y : Float} (hx : x.isFinite = true) (hy : y.isFinite = true)
    (heq : Binary.ofFloat y = Binary.ofFloat x) (hsign : signOf y = signOf x) : y = x := by
  apply eq_of_toModel
  rw [← pack_unpack y, ← pack_unpack x, unpack_of_isFinite hx, unpack_of_isFinite hy, heq, hsign]

lemma neg_unpacked (b : Binary) : (b.unpacked .positive).neg = b.unpacked .negative := by
  unfold Binary.unpacked
  split
  · rfl
  · rfl

lemma neg_eq_of_ofFloat {y : Float} (hx : x.isFinite = true) (hnegative : signOf x = .negative)
    (hy : y.isFinite = true) (hpositive : signOf y = .positive)
    (heq : Binary.ofFloat y = Binary.ofFloat x) : -y = x := by
  apply eq_of_toModel
  change pack y.toModel.unpack.neg = _
  rw [← pack_unpack x, unpack_of_isFinite hx, unpack_of_isFinite hy, heq, hpositive, hnegative, neg_unpacked]

lemma exists_positive (hfinite : x.isFinite = true) :
    ∃ y : Float, y.isFinite = true ∧ signOf y = .positive ∧ Binary.ofFloat y = Binary.ofFloat x := by
  have hlt := exponent_lt_of_not_special (isFinite_iff_not_special.mp hfinite)
  obtain ⟨y, hy, heq, hsign⟩ := exists_ofFloat_eq (Binary.isCanonical_ofFloat x) (by omega)
  exact ⟨y, hy, hsign, heq⟩

lemma float?_text_of_isFinite (hlayout : layout.IsPositional) (hfinite : x.isFinite = true)
    (hpos : 0 < (Binary.ofFloat x).significand) : float? (layout.text x) = some x := by
  obtain ⟨y, hy, hsign, heq⟩ := exists_positive hfinite
  have hread := magnitude?_magnitude hlayout hy hsign (heq ▸ hpos)
  have hchars : ∀ c ∈ (layout.magnitude y).toList, isNumeral c = true := by
    rw [hlayout.magnitude_eq]
    exact fun c hc =>
      isNumeral_of_mem_positionalText hlayout.whole (fun _ => Json.Token.isDigit_of_mem_toDigits) hc
  have hmagnitude : layout.magnitude x = layout.magnitude y := by
    rw [hlayout.magnitude_eq, hlayout.magnitude_eq, heq]
  rw [Layout.text_of_isFinite layout hfinite, hmagnitude]
  generalize layout.magnitude y = text at hread hchars
  obtain ⟨cs, rfl⟩ : ∃ cs, text = String.ofList cs := ⟨_, String.ofList_toList.symm⟩
  rw [String.toList_ofList] at hread hchars
  cases cs with
  | nil => cases hread
  | cons c cs =>
    obtain ⟨hplain, hminus⟩ := float?_of_isNumeral hchars
    by_cases hnegative : 9223372036854775808 ≤ x.toBits.toNat
    · have htext : signText x ++ String.ofList (c :: cs) = String.ofList ('-' :: c :: cs) := by
        rw [signText, if_pos hnegative]
        exact (@String.ofList_append ['-'] (c :: cs)).symm
      rw [htext, hminus, hread, Option.map_some, neg_eq_of_ofFloat hfinite (if_pos hnegative) hy hsign heq]
    · have htext : signText x ++ String.ofList (c :: cs) = String.ofList (c :: cs) := by
        rw [signText, if_neg hnegative, String.empty_append]
      rw [htext, hplain, hread, eq_of_ofFloat hfinite hy heq (hsign.trans (if_neg hnegative).symm)]

lemma kinds_of_isNaN (hx : x.isNaN = false) :
    (x = 1.0 / 0.0 ∨ x = -(1.0 / 0.0)) ∨ (x = 0.0 ∨ x = -0.0) ∨
      x.isFinite = true ∧ 0 < (Binary.ofFloat x).significand := by
  have hpack := pack_unpack x
  cases hunpack : x.toModel.unpack with
  | infinity sign =>
    obtain rfl : x = .ofModel (pack (.infinity sign)) := eq_of_toModel (by rw [← hunpack, hpack])
    cases sign
    · exact .inl (.inr rfl)
    · exact .inl (.inl rfl)
  | notANumber =>
    change x.toModel.unpack.isNaN = false at hx
    rw [hunpack] at hx
    cases hx
  | zero sign =>
    obtain rfl : x = .ofModel (pack (.zero sign)) := eq_of_toModel (by rw [← hunpack, hpack])
    cases sign
    · exact .inr (.inl (.inr rfl))
    · exact .inr (.inl (.inl rfl))
  | finite sign mantissa exponent hpos =>
    have hfinite : x.isFinite = true := by
      change x.toModel.unpack.isFinite = true
      rw [hunpack]
      rfl
    refine .inr (.inr ⟨hfinite, Nat.pos_of_ne_zero fun hzero => ?_⟩)
    rw [unpack_of_isFinite hfinite, Binary.unpacked, dif_pos hzero] at hunpack
    cases hunpack

theorem float?_text (hx : x.isNaN = false) : float? (plain.text x) = some x := by
  rcases kinds_of_isNaN hx with (rfl | rfl) | (rfl | rfl) | ⟨hfinite, hpos⟩
  · rfl
  · rfl
  · rfl
  · rfl
  · exact float?_text_of_isFinite plain_isPositional hfinite hpos

end EntityAudit.Decimal
