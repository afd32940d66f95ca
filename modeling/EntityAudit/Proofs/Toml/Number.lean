import EntityAudit.Proofs.Decimal.Reading
import EntityAudit.Toml.Reader
import EntityAudit.Toml.Writer

/-!
Integers and numbers are read as they are written. They are tried as moments first, which have other marks behind their
first digits.
-/

namespace EntityAudit.Toml

variable {w f r : List Char} {c : Char} {x : Float}

def EndsValue (r : List Char) : Prop := ∀ c ∈ r.head?, c ∈ ['\n', ',', ']']

lemma EndsValue.ne (h : EndsValue r) {d : Char} (hd : d ∉ ['\n', ',', ']']) : ∀ c ∈ r.head?, c ≠ d := by
  rintro c hc rfl
  exact hd (h c hc)

lemma EndsValue.isDigit_eq_false (h : EndsValue r) : ∀ c ∈ r.head?, Text.isDigit c = false := by
  intro c hc
  rcases (by simpa using h c hc : c = '\n' ∨ c = ',' ∨ c = ']') with rfl | rfl | rfl
  all_goals rfl

/-! ## Digits -/

lemma moreDigits_append (hw : ∀ c ∈ w, c.isDigit = true)
    (hr : ∀ c ∈ r.head?, Text.isDigit c = false ∧ c ≠ '_') : moreDigits Text.isDigit (w ++ r) = (w, r) := by
  induction w with
  | nil =>
    rw [List.nil_append]
    unfold moreDigits
    split
    · exact absurd rfl (hr _ rfl).2
    · rw [(hr _ rfl).1]
      rfl
    · rfl
  | cons c w ih =>
    obtain ⟨hc, hw⟩ := List.forall_mem_cons.mp hw
    have hunderscore : c ≠ '_' := by
      rintro rfl
      cases hc
    rw [List.cons_append, moreDigits.eq_2 _ _ _ (fun _ _ h => absurd h hunderscore),
      Text.isDigit_of_charIsDigit hc, if_pos rfl, ih hw]

lemma digits?_append (hw : ∀ c ∈ w, c.isDigit = true) (hne : w ≠ [])
    (hr : ∀ c ∈ r.head?, Text.isDigit c = false ∧ c ≠ '_') : digits? Text.isDigit (w ++ r) = some (w, r) := by
  cases w with
  | nil => exact absurd rfl hne
  | cons c w =>
    obtain ⟨hc, hw⟩ := List.forall_mem_cons.mp hw
    rw [List.cons_append, digits?, Text.isDigit_of_charIsDigit hc, if_pos rfl, moreDigits_append hw hr]

structure IsWhole (w : List Char) : Prop where
  isDigit : ∀ c ∈ w, c.isDigit = true
  ne_nil : w ≠ []
  head : w = ['0'] ∨ w.head? ≠ some '0'

lemma isDigit_toDigits {n : Nat} : ∀ c ∈ Nat.toDigits 10 n, c.isDigit = true :=
  fun _ hc => Json.Token.isDigit_of_mem_toDigits hc

lemma isWhole_toDigits (n : Nat) : IsWhole (Nat.toDigits 10 n) := by
  refine ⟨isDigit_toDigits, Nat.toDigits_ne_nil, ?_⟩
  by_cases hn : n = 0
  · subst hn
    exact .inl rfl
  · exact .inr (Text.head?_toDigits hn)

namespace IsWhole

lemma exists_cons (h : IsWhole w) : ∃ c w', w = c :: w' ∧ c.isDigit = true := by
  obtain ⟨c, w', rfl⟩ := List.exists_cons_of_ne_nil h.ne_nil
  exact ⟨c, w', rfl, h.isDigit c List.mem_cons_self⟩

lemma sign_append (h : IsWhole w) (r : List Char) : sign (w ++ r) = ([], w ++ r) := by
  obtain ⟨c, w', rfl, hc⟩ := h.exists_cons
  unfold sign
  split
  · obtain ⟨rfl, -⟩ := List.cons.inj ‹_›
    cases hc
  · obtain ⟨rfl, -⟩ := List.cons.inj ‹_›
    cases hc
  · rfl

lemma whole?_append (h : IsWhole w) (hr : ∀ c ∈ r.head?, Text.isDigit c = false ∧ c ≠ '_') :
    whole? (w ++ r) = some (w, r) := by
  rcases h.head with rfl | hhead
  · rfl
  · rw [whole?.eq_2, digits?_append h.isDigit h.ne_nil hr]
    intro r' hzero
    obtain ⟨c, w', rfl, -⟩ := h.exists_cons
    obtain ⟨rfl, -⟩ := List.cons.inj hzero
    exact hhead rfl

end IsWhole

/-! ## Moments -/

lemma isDigit_of_appendDigits? {n m : Nat} (h : Text.appendDigits? n w = some m) : ∀ c ∈ w, Text.isDigit c = true := by
  induction w generalizing n with
  | nil => nofun
  | cons c w ih =>
    obtain ⟨d, hd, h⟩ := Option.bind_eq_some_iff.mp h
    refine List.forall_mem_cons.mpr ⟨?_, ih h⟩
    rw [Text.isDigit, hd]
    rfl

lemma field?_eq_some {width low high n : Nat} {cs s : List Char} (h : field? width low high cs = some (n, s)) :
    width ≤ cs.length ∧ (∀ c ∈ cs.take width, Text.isDigit c = true) ∧ s = cs.drop width := by
  unfold field? at h
  dsimp only at h
  split at h
  · rename_i hlength
    obtain ⟨m, hdigits, h⟩ := Option.bind_eq_some_iff.mp h
    obtain ⟨-, h⟩ := Option.ite_none_right_eq_some.mp h
    obtain ⟨-, rfl⟩ := Prod.mk.inj (Option.some.inj h)
    refine ⟨by simpa using hlength, ?_, rfl⟩
    unfold Text.digits? at hdigits
    split at hdigits
    · cases hdigits
    · exact isDigit_of_appendDigits? hdigits
  · cases h

lemma after?_of_field? {width low high n : Nat} {s : List Char} (hwidth : 0 < width) (hw : c ∉ w.tail)
    (hr : ∀ d ∈ r.head?, Text.isDigit d = false ∧ d ≠ c) (h : field? width low high (w ++ r) = some (n, s)) :
    after? c s = none := by
  obtain ⟨hlength, hdigits, rfl⟩ := field?_eq_some h
  rcases hs : (w ++ r).drop width with _ | ⟨d, t⟩
  · rfl
  · refine if_neg ?_
    rintro rfl
    have hat : (w ++ r)[width]? = some d := by rw [← List.head?_drop, hs, List.head?_cons]
    rcases Nat.lt_or_ge width w.length with hlt | hge
    · rw [List.getElem?_append_left hlt] at hat
      obtain ⟨a, w', rfl⟩ := List.exists_cons_of_length_pos (by omega : 0 < w.length)
      obtain ⟨k, rfl⟩ := Nat.exists_eq_add_of_lt hwidth
      rw [Nat.zero_add, List.getElem?_cons_succ] at hat
      exact hw (List.mem_of_getElem? hat)
    · rcases r with _ | ⟨b, r⟩
      · rw [List.append_nil, List.getElem?_eq_none hge] at hat
        cases hat
      · obtain ⟨hb, hne⟩ := hr b rfl
        rcases Nat.eq_or_lt_of_le hge with rfl | hlt
        · rw [List.getElem?_append_right le_rfl, Nat.sub_self] at hat
          exact hne (Option.some.inj hat)
        · have hmem : b ∈ (w ++ b :: r).take width := by
            rw [List.take_append, List.mem_append]
            refine .inr ?_
            obtain ⟨k, hk⟩ : ∃ k, width - w.length = k + 1 := ⟨width - w.length - 1, by omega⟩
            rw [hk, List.take_succ_cons]
            exact List.mem_cons_self
          rw [hdigits b hmem] at hb
          cases hb

lemma moment?_append (hw : '-' ∉ w.tail ∧ ':' ∉ w.tail) (hr : EndsValue r) : moment? (w ++ r) = none := by
  have hmark (c : Char) (hc : c ∉ ['\n', ',', ']']) : ∀ d ∈ r.head?, Text.isDigit d = false ∧ d ≠ c :=
    fun d hd => ⟨hr.isDigit_eq_false d hd, hr.ne hc d hd⟩
  have hdate : date? (w ++ r) = none := by
    unfold date?
    rcases hyear : field? 4 0 9999 (w ++ r) with _ | ⟨n, s⟩
    · rfl
    · simp only [Option.bind_eq_bind, Option.bind_some,
        after?_of_field? (by decide) hw.1 (hmark '-' (by decide)) hyear, Option.bind_none]
  have hclock : clock? (w ++ r) = none := by
    unfold clock?
    rcases hhour : field? 2 0 23 (w ++ r) with _ | ⟨n, s⟩
    · rfl
    · simp only [Option.bind_eq_bind, Option.bind_some,
        after?_of_field? (by decide) hw.2 (hmark ':' (by decide)) hhour, Option.bind_none]
  simp only [moment?, hdate, hclock, Option.map_none]

/-! ## Integers -/

lemma scalar?_of_head (hc : c ∉ ['"', '\'', 't', 'f']) (cs : List Char) :
    scalar? (c :: cs) = (moment? (c :: cs) <|> float? (c :: cs) <|> integer? (c :: cs)) := by
  have hne (d : Char) (hd : d ∈ ['"', '\'', 't', 'f']) : c ≠ d := fun h => hc (h ▸ hd)
  unfold scalar?
  split
  · exact absurd (List.cons.inj ‹_›).1 (hne '"' (by decide))
  · exact absurd (List.cons.inj ‹_›).1 (hne '\'' (by decide))
  · exact absurd (List.cons.inj ‹_›).1 (hne 't' (by decide))
  · exact absurd (List.cons.inj ‹_›).1 (hne 'f' (by decide))
  · rfl

lemma power?_of_ends (hr : EndsValue r) : power? r = none := by
  rcases r with _ | ⟨c, r⟩
  · rfl
  · exact if_neg fun h => h.elim (hr.ne (by decide) c rfl) (hr.ne (by decide) c rfl)

lemma fractionOrPower?_of_ends (hr : EndsValue r) : fractionOrPower? r = none := by
  unfold fractionOrPower?
  split
  · exact absurd rfl (hr.ne (by decide) '.' rfl)
  · exact power?_of_ends hr

lemma EndsValue.endsDigits (hr : EndsValue r) : ∀ c ∈ r.head?, Text.isDigit c = false ∧ c ≠ '_' :=
  fun c hc => ⟨hr.isDigit_eq_false c hc, hr.ne (by decide) c hc⟩

lemma special?_of_isDigit (hc : c.isDigit = true) (cs : List Char) : special? (c :: cs) = none := by
  have hsign : sign (c :: cs) = ([], c :: cs) := by
    unfold sign
    split
    · obtain ⟨rfl, -⟩ := List.cons.inj ‹_›
      cases hc
    · obtain ⟨rfl, -⟩ := List.cons.inj ‹_›
      cases hc
    · rfl
  have hword (d : Char) (ds : List Char) (hd : d.isDigit = false) : (c :: cs).take 3 ≠ d :: ds := by
    intro h
    rw [List.take_succ_cons] at h
    rw [(List.cons.inj h).1, hd] at hc
    cases hc
  unfold special?
  rw [hsign]
  exact if_neg (not_or.mpr ⟨hword _ _ rfl, hword _ _ rfl⟩)

lemma ofDigits_of_isDigit (hw : ∀ c ∈ w, c.isDigit = true) : ofDigits 10 w = Nat.ofDigitChars 10 w 0 := by
  have hfold (n : Nat) : w.foldl (fun n c => 10 * n + (Text.hexDigit? c).getD 0) n = Nat.ofDigitChars 10 w n := by
    induction w generalizing n with
    | nil => simp
    | cons c w ih =>
      obtain ⟨hc, hw⟩ := List.forall_mem_cons.mp hw
      have hdigit : Text.hexDigit? c = some (c.toNat - '0'.toNat) := by
        obtain ⟨hlow, hhigh⟩ := Char.isDigit_iff_toNat.mp hc
        exact if_pos ⟨Char.le_def.mpr hlow, Char.le_def.mpr hhigh⟩
      rw [List.foldl_cons, ih hw, hdigit, Nat.ofDigitChars_cons, Option.getD_some]
  exact hfold 0

namespace IsWhole

lemma ne_based (h : IsWhole w) (hr : EndsValue r) {d : Char} (hd : d ∈ ['x', 'o', 'b']) (cs : List Char) :
    w ++ r ≠ '0' :: d :: cs := by
  intro heq
  rcases h.head with rfl | hhead
  · obtain rfl : r = d :: cs := (List.cons.inj heq).2
    rcases (by simpa using hd : d = 'x' ∨ d = 'o' ∨ d = 'b') with rfl | rfl | rfl
    all_goals exact absurd (hr _ rfl) (by decide)
  · obtain ⟨c, w', rfl, -⟩ := h.exists_cons
    obtain ⟨rfl, -⟩ := List.cons.inj heq
    exact hhead rfl

lemma integer?_append (h : IsWhole w) (hr : EndsValue r) :
    integer? (w ++ r) = (integerIn? (ofDigits 10 w)).map fun j => (j, r) := by
  have hsign : ([] : List Char) ≠ ['-'] := nofun
  rw [integer?.eq_4 _ (h.ne_based hr (by decide)) (h.ne_based hr (by decide)) (h.ne_based hr (by decide)),
    h.sign_append]
  dsimp only
  rw [h.whole?_append hr.endsDigits, Option.bind_eq_bind, Option.bind_some]
  dsimp only
  rw [if_neg hsign]
  exact Option.map_eq_bind.symm

lemma decimal?_append (h : IsWhole w) (hr : EndsValue r) : decimal? (w ++ r) = none := by
  unfold decimal?
  rw [h.sign_append]
  simp only [h.whole?_append hr.endsDigits, fractionOrPower?_of_ends hr, Option.bind_eq_bind, Option.bind_some,
    Option.bind_none]

end IsWhole

theorem scalar?_natural {n : Nat} (hn : n < 9223372036854775808) (hr : EndsValue r) :
    scalar? ((toString n).toList ++ r) = some (.integer n, r) := by
  have hw := isWhole_toDigits n
  have hmarks : '-' ∉ (Nat.toDigits 10 n).tail ∧ ':' ∉ (Nat.toDigits 10 n).tail := by
    constructor
    all_goals
      intro hmem
      cases hw.isDigit _ (List.mem_of_mem_tail hmem)
  rw [Nat.toString_eq_repr, Nat.toList_repr]
  generalize hdigits : Nat.toDigits 10 n = w at hw hmarks
  obtain ⟨c, w', rfl, hc⟩ := hw.exists_cons
  have hhead : c ∉ ['"', '\'', 't', 'f'] := by
    intro hmem
    rcases (by simpa using hmem : c = '"' ∨ c = '\'' ∨ c = 't' ∨ c = 'f') with rfl | rfl | rfl | rfl
    all_goals cases hc
  have hfloat : float? (c :: w' ++ r) = none := by
    rw [float?, hw.decimal?_append hr, List.cons_append, special?_of_isDigit hc]
    rfl
  have hinteger : integer? (c :: w' ++ r) = some (.integer n, r) := by
    rw [hw.integer?_append hr, ofDigits_of_isDigit hw.isDigit, ← hdigits, Nat.ofDigitChars_ten_toDigits, integerIn?,
      if_pos (by omega)]
    rfl
  rw [List.cons_append, scalar?_of_head hhead, ← List.cons_append, moment?_append hmarks hr, hfloat, hinteger]
  rfl

/-! ## Numbers -/

lemma fractionOrPower?_point (hf : ∀ c ∈ f, c.isDigit = true) (hne : f ≠ []) (hr : EndsValue r) :
    fractionOrPower? ('.' :: (f ++ r)) = some ('.' :: f, r) := by
  rw [fractionOrPower?, digits?_append hf hne hr.endsDigits, Option.bind_eq_bind, Option.bind_some]
  dsimp only
  rw [power?_of_ends hr, Option.getD_none, List.append_nil]
  rfl

lemma beq_infinity_of_isFinite (hx : x.isFinite = true) : (x == 1.0 / 0.0) = false := by
  rw [Bool.eq_false_iff]
  intro h
  obtain ⟨-, -, rfl | ⟨-, h⟩ | ⟨-, h⟩⟩ := Float.beq_iff_ne_nan_and_eq.mp h
  · cases hx
  · exact absurd h (by decide)
  · exact absurd h (by decide)

lemma decimal?_point {s : List Char} (hs : s ∈ [[], ['-']]) (hw : IsWhole w) (hf : ∀ c ∈ f, c.isDigit = true)
    (hne : f ≠ []) (hr : EndsValue r) (hread : Decimal.float? (String.ofList (s ++ w ++ '.' :: f)) = some x)
    (hx : x.isFinite = true) : decimal? (s ++ (w ++ '.' :: (f ++ r))) = some (.float x, r) := by
  have hsign : sign (s ++ (w ++ '.' :: (f ++ r))) = (s, w ++ '.' :: (f ++ r)) := by
    rcases (by simpa using hs : s = [] ∨ s = ['-']) with rfl | rfl
    · exact hw.sign_append _
    · rfl
  have hpoint : ∀ c ∈ ('.' :: (f ++ r)).head?, Text.isDigit c = false ∧ c ≠ '_' := by
    rintro c ⟨⟩
    exact ⟨rfl, by decide⟩
  rw [decimal?, hsign]
  dsimp only
  rw [hw.whole?_append hpoint, Option.bind_eq_bind, Option.bind_some]
  dsimp only
  rw [fractionOrPower?_point hf hne hr, Option.bind_some]
  dsimp only
  rw [hread, Option.bind_eq_bind, Option.bind_some, beq_infinity_of_isFinite hx]
  rfl

lemma isDigit_zero : ∀ c ∈ ['0'], c.isDigit = true := by
  intro c hc
  obtain rfl := List.mem_singleton.mp hc
  rfl

lemma exists_point {digits : List Char} (hdigits : ∀ c ∈ digits, c.isDigit = true) (hne : digits ≠ [])
    (hhead : digits.head? ≠ some '0') (exponent : Int) :
    ∃ w f, (Decimal.positionalText digits exponent ".0").toList = w ++ '.' :: f ∧ IsWhole w ∧
      (∀ c ∈ f, c.isDigit = true) ∧ f ≠ [] := by
  unfold Decimal.positionalText
  split
  · refine ⟨digits ++ List.replicate exponent.toNat '0', ['0'], ?_, ⟨Decimal.isDigit_append_zeros hdigits, ?_, ?_⟩,
      isDigit_zero, List.cons_ne_nil _ _⟩
    · rw [String.toList_append, String.toList_ofList]
      rfl
    · exact List.append_ne_nil_of_left_ne_nil hne _
    · rw [List.head?_append_of_ne_nil _ hne]
      exact .inr hhead
  · rename_i hneg
    dsimp only
    have hplaces : 0 < exponent.natAbs := by omega
    have hpadded := Decimal.isDigit_zeros (n := exponent.natAbs + 1 - digits.length) hdigits
    refine ⟨_, _, String.toList_ofList, ⟨fun c hc => hpadded c (List.mem_of_mem_take hc), ?_, ?_⟩,
      fun c hc => hpadded c (List.mem_of_mem_drop hc), ?_⟩
    · rw [Ne, List.take_eq_nil_iff, List.length_append, List.length_replicate, not_or]
      exact ⟨by omega, List.append_ne_nil_of_right_ne_nil _ hne⟩
    · rcases Nat.lt_or_ge exponent.natAbs digits.length with hlt | hge
      · rw [Nat.sub_eq_zero_of_le hlt, List.replicate_zero, List.nil_append]
        obtain ⟨c, cs, rfl⟩ := List.exists_cons_of_ne_nil hne
        obtain ⟨k, hk⟩ : ∃ k, (c :: cs).length - exponent.natAbs = k + 1 :=
          ⟨(c :: cs).length - exponent.natAbs - 1, by omega⟩
        rw [hk, List.take_succ_cons]
        exact .inr hhead
      · obtain ⟨k, hk⟩ : ∃ k, exponent.natAbs + 1 - digits.length = k + 1 := ⟨exponent.natAbs - digits.length, by omega⟩
        have hcut : (List.replicate (k + 1) '0' ++ digits).length - exponent.natAbs = 1 := by
          rw [List.length_append, List.length_replicate]
          omega
        rw [hk, hcut, List.replicate_succ]
        exact .inl rfl
    · rw [Ne, List.drop_eq_nil_iff, List.length_append, List.length_replicate, Nat.not_le]
      omega

lemma numberLayout_isPositional : numberLayout.IsPositional := ⟨fun _ => rfl, by simp [numberLayout]⟩

inductive NumberText (x : Float) : List Char → Prop
  | point {s w f : List Char} (hs : s ∈ [[], ['-']]) (hw : IsWhole w) (hf : ∀ c ∈ f, c.isDigit = true) (hne : f ≠ [])
      (hread : Decimal.float? (String.ofList (s ++ w ++ '.' :: f)) = some x) (hx : x.isFinite = true) :
      NumberText x (s ++ (w ++ '.' :: f))
  | infinite {s : List Char} (hs : s ∈ [[], ['-']])
      (hread : Decimal.float? (String.ofList (s ++ ['i', 'n', 'f'])) = some x) : NumberText x (s ++ ['i', 'n', 'f'])

lemma numberText (hx : x.isNaN = false) : NumberText x (numberLayout.text x).toList := by
  have hzero : IsWhole ['0'] := ⟨isDigit_zero, List.cons_ne_nil _ _, .inl rfl⟩
  rcases Decimal.kinds_of_isNaN hx with (rfl | rfl) | (rfl | rfl) | ⟨hfinite, hpos⟩
  · exact .infinite (s := []) (by simp) rfl
  · exact .infinite (s := ['-']) (by simp) rfl
  · exact .point (s := []) (f := ['0']) (by simp) hzero isDigit_zero (List.cons_ne_nil _ _) rfl rfl
  · exact .point (s := ['-']) (f := ['0']) (by simp) hzero isDigit_zero (List.cons_ne_nil _ _) rfl rfl
  · have hread := Decimal.float?_text_of_isFinite numberLayout_isPositional hfinite hpos
    have hdigits := Decimal.Binary.digits_shortest_pos (Decimal.Binary.isCanonical_ofFloat x) hpos
    obtain ⟨w, f, htext, hw, hf, hne⟩ := exists_point isDigit_toDigits Nat.toDigits_ne_nil
      (Text.head?_toDigits hdigits.ne') (Decimal.Binary.ofFloat x).shortest.exponent
    have hmagnitude : (numberLayout.magnitude x).toList = w ++ '.' :: f := by
      rw [numberLayout_isPositional.magnitude_eq]
      exact htext
    obtain ⟨s, hs, hsign⟩ : ∃ s ∈ [[], ['-']], (Decimal.signText x).toList = s := by
      unfold Decimal.signText
      split
      · exact ⟨['-'], by simp, rfl⟩
      · exact ⟨[], by simp, rfl⟩
    have hall : (numberLayout.text x).toList = s ++ (w ++ '.' :: f) := by
      rw [Decimal.Layout.text_of_isFinite numberLayout hfinite, String.toList_append, hsign, hmagnitude]
    rw [hall]
    refine .point hs hw hf hne ?_ hfinite
    rw [List.append_assoc, ← hall, String.ofList_toList, hread]

namespace NumberText

variable {t : List Char}

lemma exists_cons (h : NumberText x t) : ∃ c cs, t = c :: cs ∧ (c.isDigit = true ∨ c ∈ ['-', 'i']) := by
  cases h with
  | point hs hw _ _ _ _ =>
    rcases (by simpa using hs) with rfl | rfl
    · obtain ⟨c, w', rfl, hc⟩ := hw.exists_cons
      exact ⟨c, _, rfl, .inl hc⟩
    · exact ⟨'-', _, rfl, .inr (by decide)⟩
  | infinite hs _ =>
    rcases (by simpa using hs) with rfl | rfl
    all_goals exact ⟨_, _, rfl, .inr (by decide)⟩

lemma moment?_eq_none (h : NumberText x t) (hr : EndsValue r) : moment? (t ++ r) = none := by
  cases h with
  | @point s w f hs hw hf _ _ _ =>
    have hmarks (c : Char) (hc : c.isDigit = false) (hpoint : c ≠ '.') (hmem : c ∈ w ++ '.' :: f) : False := by
      rcases List.mem_append.mp hmem with hmem | hmem
      · rw [hw.isDigit c hmem] at hc
        cases hc
      · rcases List.mem_cons.mp hmem with rfl | hmem
        · exact hpoint rfl
        · rw [hf c hmem] at hc
          cases hc
    have htail : ∀ c ∈ (s ++ (w ++ '.' :: f)).tail, c ∈ w ++ '.' :: f := by
      rcases (by simpa using hs : s = [] ∨ s = ['-']) with rfl | rfl
      · exact fun c => List.mem_of_mem_tail
      · exact fun c hc => hc
    exact moment?_append
      ⟨fun h => hmarks '-' rfl (by decide) (htail _ h), fun h => hmarks ':' rfl (by decide) (htail _ h)⟩ hr
  | infinite hs _ =>
    rcases (by simpa using hs) with rfl | rfl
    all_goals exact moment?_append (by decide) hr

lemma float?_eq_some (h : NumberText x t) (hr : EndsValue r) : float? (t ++ r) = some (.float x, r) := by
  cases h with
  | point hs hw hf hne hread hx =>
    rw [List.append_assoc, List.append_assoc, List.cons_append, float?, decimal?_point hs hw hf hne hr hread hx]
    rfl
  | @infinite s hs hread =>
    have hsign : sign (s ++ ['i', 'n', 'f'] ++ r) = (s, ['i', 'n', 'f'] ++ r) := by
      rcases (by simpa using hs : s = [] ∨ s = ['-']) with rfl | rfl
      all_goals rfl
    have hdecimal : decimal? (s ++ ['i', 'n', 'f'] ++ r) = none := by
      rw [decimal?, hsign]
      rfl
    have hspecial : special? (s ++ ['i', 'n', 'f'] ++ r) = some (.float x, r) := by
      have hword : (['i', 'n', 'f'] ++ r).take 3 = ['i', 'n', 'f'] := rfl
      rw [special?, hsign]
      dsimp only
      rw [hword, if_pos (.inl rfl), hread]
      rfl
    rw [float?, hdecimal, hspecial]
    rfl

end NumberText

theorem scalar?_number (hx : x.isNaN = false) (hr : EndsValue r) :
    scalar? ((numberLayout.text x).toList ++ r) = some (.float x, r) := by
  have htext := numberText hx
  obtain ⟨c, cs, hcs, hc⟩ := htext.exists_cons
  have hhead : c ∉ ['"', '\'', 't', 'f'] := by
    intro hmem
    rcases (by simpa using hmem : c = '"' ∨ c = '\'' ∨ c = 't' ∨ c = 'f') with rfl | rfl | rfl | rfl
    all_goals exact absurd hc (by decide)
  have hmoment := htext.moment?_eq_none hr
  have hfloat := htext.float?_eq_some hr
  rw [hcs, List.cons_append] at hmoment hfloat ⊢
  rw [scalar?_of_head hhead, hmoment, hfloat]
  rfl

end EntityAudit.Toml
