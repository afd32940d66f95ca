import EntityAudit.Proofs.Toml.Number

namespace EntityAudit.Toml

variable {c : Char} {r : List Char} {x : Float} {j : Json} {t : String}

/-! ## Texts -/

namespace Quoted

lemma basic?_plain (hquote : c ≠ '"') (hslash : c ≠ '\\') (hplain : isPlain c = true) (r : List Char) :
    basic? (c :: r) = push c (basic? r) := by
  rw [basic?.eq_def]
  split
  · cases ‹c :: r = []›
  · exact absurd (List.cons.inj ‹_›).1 hquote
  · exact absurd (List.cons.inj ‹_›).1 hslash
  · exact absurd (List.cons.inj ‹_›).1 hslash
  · exact absurd (List.cons.inj ‹_›).1 hslash
  · obtain ⟨rfl, rfl⟩ := List.cons.inj ‹_›
    rw [if_pos hplain]

lemma basic?_control {n : Nat} (h : n < 0x20 ∨ n = 0x7F) (hplain : isPlain (Char.ofNat n) = false) (r : List Char) :
    basic? ((escape (Char.ofNat n)).toList ++ r) = push (Char.ofNat n) (basic? r) := by
  rcases h with h | rfl
  · interval_cases n
    case «9» => cases hplain
    all_goals rfl
  · rfl

lemma basic?_escape (c : Char) (r : List Char) : basic? ((escape c).toList ++ r) = push c (basic? r) := by
  by_cases hplain : isPlain c = true
  · unfold escape
    split
    · subst c
      rfl
    split
    · subst c
      rfl
    simpa using basic?_plain ‹_› ‹_› hplain r
  · have hcontrol : c.toNat < 0x20 ∨ c.toNat = 0x7F := by
      simp only [isPlain, Bool.or_eq_true, Bool.and_eq_true, decide_eq_true_eq, bne_iff_ne, not_or, not_and,
        Decidable.not_not] at hplain
      omega
    rw [← Char.ofNat_toNat c] at hplain ⊢
    exact basic?_control hcontrol (Bool.eq_false_iff.mpr hplain) r

lemma basic?_escaped (s r : List Char) :
    basic? (s.flatMap (fun c => (escape c).toList) ++ '"' :: r) = some (s, r) := by
  induction s with
  | nil => rfl
  | cons c s ih =>
    rw [List.flatMap_cons, List.append_assoc, basic?_escape, ih]
    rfl

end Quoted

lemma toList_quote (s : String) :
    (quote s).toList = '"' :: (s.toList.flatMap (fun c => (escape c).toList) ++ ['"']) := by
  simp [quote, List.flatMap_map]

lemma exists_escape (c : Char) : ∃ d ds, (escape c).toList = d :: ds ∧ d ≠ '"' := by
  unfold escape
  split
  · exact ⟨_, _, rfl, by decide⟩
  split
  · exact ⟨_, _, rfl, by decide⟩
  split
  · exact ⟨c, [], by simp, ‹_›⟩
  · dsimp only
    rw [String.append_assoc, String.toList_append]
    exact ⟨_, _, rfl, by decide⟩

lemma text?_quote (s : String) (hr : EndsValue r) : Quoted.text? ((quote s).toList ++ r) = some (s.toList, r) := by
  rw [toList_quote, List.cons_append, List.append_assoc, List.singleton_append]
  have hblock (cs : List Char) : s.toList.flatMap (fun c => (escape c).toList) ++ '"' :: r ≠ '"' :: '"' :: cs := by
    rcases s.toList with _ | ⟨c, s⟩
    · intro h
      obtain rfl : r = '"' :: cs := (List.cons.inj h).2
      exact hr.ne (by decide) '"' rfl rfl
    · obtain ⟨d, ds, hd, hne⟩ := exists_escape c
      rw [List.flatMap_cons, hd]
      exact fun h => hne (List.cons.inj h).1
  rw [Quoted.text?.eq_3]
  · exact Quoted.basic?_escaped _ _
  · exact fun cs h => hblock cs (List.cons.inj h).2
  · nofun

theorem scalar?_text (s : String) (hr : EndsValue r) : scalar? ((quote s).toList ++ r) = some (.text s, r) := by
  have hquote : (quote s).toList ++ r =
      '"' :: (s.toList.flatMap (fun c => (escape c).toList) ++ ['"'] ++ r) := by
    rw [toList_quote, List.cons_append]
  rw [hquote, scalar?, ← hquote, text?_quote s hr, Option.map_some]
  dsimp only
  rw [String.ofList_toList]

/-! ## Scalars and arrays of them -/

inductive Scalar : Json → Prop
  | bool (b : Bool) : Scalar (.bool b)
  | natural {n : Nat} (h : n < 9223372036854775808) : Scalar (.integer n)
  | number {x : Float} (h : x.isNaN = false) : Scalar (.float x)
  | text (s : String) : Scalar (.text s)

def notFirst : List Char := ['[', ']', '\x7b', '#', ' ', '\t', '\n', '\r']

structure ScalarText (t : String) (j : Json) : Prop where
  head : ∃ c cs, t.toList = c :: cs ∧ c ∉ notFirst
  scalar : ∀ r, EndsValue r → scalar? (t.toList ++ r) = some (j, r)

lemma notMem_of_isDigit (hc : c.isDigit = true) : c ∉ notFirst := by
  intro hmem
  simp only [notFirst, List.mem_cons, List.not_mem_nil, or_false] at hmem
  rcases hmem with rfl | rfl | rfl | rfl | rfl | rfl | rfl | rfl
  all_goals cases hc

lemma inlineText?_natural {n : Nat} (h : n < 9223372036854775808) : inlineText? (.integer n) = some (toString n) := by
  rw [inlineText?, if_pos (by omega)]
  rfl

lemma Scalar.exists_text (h : Scalar j) : ∃ t, inlineText? j = some t ∧ ScalarText t j := by
  cases h with
  | bool b =>
    refine ⟨_, rfl, ?_⟩
    cases b
    · exact ⟨⟨'f', ['a', 'l', 's', 'e'], rfl, by decide⟩, fun r _ => rfl⟩
    · exact ⟨⟨'t', ['r', 'u', 'e'], rfl, by decide⟩, fun r _ => rfl⟩
  | @natural n h =>
    refine ⟨toString n, inlineText?_natural h, ?_, fun r hr => scalar?_natural h hr⟩
    obtain ⟨c, cs, hcs, hc⟩ := (isWhole_toDigits n).exists_cons
    exact ⟨c, cs, by rw [Nat.toString_eq_repr, Nat.toList_repr, hcs], notMem_of_isDigit hc⟩
  | number h =>
    obtain ⟨c, cs, hcs, hc⟩ := (numberText h).exists_cons
    refine ⟨_, rfl, ⟨c, cs, hcs, hc.elim notMem_of_isDigit fun hc => ?_⟩, fun r hr => scalar?_number h hr⟩
    rcases List.mem_pair.mp hc with rfl | rfl
    all_goals decide
  | text s => exact ⟨_, rfl, ⟨_, _, toList_quote s, by decide⟩, fun r hr => scalar?_text s hr⟩

lemma isBlank_of_notMem (hc : c ∉ notFirst) : isBlank c = false := by
  have hne (d : Char) (hd : d ∈ notFirst) : c ≠ d := fun h => hc (h ▸ hd)
  simp [isBlank, hne ' ' (by decide), hne '\t' (by decide)]

lemma skipLines_of_notMem (hc : c ∉ notFirst) (cs : List Char) : skipLines false (c :: cs) = c :: cs := by
  have hne (d : Char) (hd : d ∈ notFirst) : c ≠ d := fun h => hc (h ▸ hd)
  rw [skipLines.eq_3 _ _ _ fun _ h => absurd h (hne '\r' (by decide)), if_neg (hne '\n' (by decide)),
    if_neg Bool.false_ne_true, if_neg (hne '#' (by decide)), isBlank_of_notMem hc]
  rfl

lemma ScalarText.valueWithin? (h : ScalarText t j) (depth : Nat) (hr : EndsValue r) :
    valueWithin? depth (t.toList ++ r) = some (j, r) := by
  obtain ⟨c, cs, hcs, hc⟩ := h.head
  have hne (d : Char) (hd : d ∈ notFirst) : c ≠ d := fun h => hc (h ▸ hd)
  have hscalar := h.scalar r hr
  rw [hcs, List.cons_append] at hscalar ⊢
  cases depth with
  | zero => exact hscalar
  | succ depth =>
    unfold Toml.valueWithin?
    split
    · exact absurd (List.cons.inj ‹_›).1 (hne '[' (by decide))
    · exact absurd (List.cons.inj ‹_›).1 (hne '\x7b' (by decide))
    · exact hscalar

section Items

variable {value? : ValueReader} {cs s : List Char}

lemma items?_last (hskip : skipLines false cs = c :: s) (hc : c ≠ ']') (hvalue : value? (c :: s) = some (j, ']' :: r)) :
    items? value? cs = some ([j], r) := by
  rw [items?, hskip]
  split
  · exact absurd (List.cons.inj ‹_›).1 hc
  · rw [hvalue]
    rfl

lemma items?_more (hskip : skipLines false cs = c :: s) (hc : c ≠ ']')
    (hvalue : value? (c :: s) = some (j, ',' :: r)) (hlength : r.length < cs.length) :
    items? value? cs = (items? value? r).map fun (js, rest) => (j :: js, rest) := by
  rw [items?, hskip]
  split
  · exact absurd (List.cons.inj ‹_›).1 hc
  · rw [hvalue, Option.bind_eq_bind, Option.bind_some, Option.map_eq_bind]
    exact dif_pos hlength

end Items

lemma skipLines_spaces {b cs : List Char} (hb : ∀ c ∈ b, c = ' ') : skipLines false (b ++ cs) = skipLines false cs := by
  induction b with
  | nil => rfl
  | cons c b ih =>
    obtain ⟨hc, hrest⟩ := List.forall_mem_cons.mp hb
    subst hc
    exact ih hrest

lemma exists_itemsText {items : List Json} (h : ∀ j ∈ items, Scalar j) (depth : Nat) :
    ∃ t, itemsText? items = some t ∧ ∀ (b r : List Char), (∀ c ∈ b, c = ' ') →
      items? (valueWithin? depth) (b ++ (t.toList ++ ']' :: r)) = some (items, r) := by
  induction items with
  | nil =>
    refine ⟨"", rfl, fun b r hb => ?_⟩
    rw [items?, skipLines_spaces hb]
    rfl
  | cons j js ih =>
    obtain ⟨hj, hjs⟩ := List.forall_mem_cons.mp h
    obtain ⟨t, ht, htext⟩ := hj.exists_text
    obtain ⟨c, cs, hcs, hc⟩ := htext.head
    have hbracket : c ≠ ']' := fun h => hc (by rw [h]; decide)
    have hskip (b rest : List Char) (hb : ∀ c ∈ b, c = ' ') :
        skipLines false (b ++ (t.toList ++ rest)) = c :: (cs ++ rest) := by
      rw [skipLines_spaces hb, hcs, List.cons_append, skipLines_of_notMem hc]
    have hvalue (rest : List Char) (hrest : EndsValue rest) : valueWithin? depth (c :: (cs ++ rest)) = some (j, rest) := by
      rw [← List.cons_append, ← hcs]
      exact htext.valueWithin? depth hrest
    cases js with
    | nil =>
      refine ⟨t, ht, fun b r hb => items?_last (hskip b _ hb) hbracket (hvalue _ ?_)⟩
      rintro d ⟨⟩
      decide
    | cons k ks =>
      -- The blank behind the comma belongs to the rest, which is why the statement allows for blanks.
      obtain ⟨ts, hts, hread⟩ := ih hjs
      refine ⟨t ++ ", " ++ ts, ?_, fun b r hb => ?_⟩
      · rw [itemsText?.eq_3 _ _ (List.cons_ne_nil k ks), ht, hts]
        rfl
      · have hcomma : b ++ ((t ++ ", " ++ ts).toList ++ ']' :: r) =
            b ++ (t.toList ++ ',' :: ([' '] ++ (ts.toList ++ ']' :: r))) := by
          simp
        have hends : EndsValue (',' :: ([' '] ++ (ts.toList ++ ']' :: r))) := by
          rintro d ⟨⟩
          decide
        rw [hcomma, items?_more (hskip b _ hb) hbracket (hvalue _ hends) (by simp; omega),
          hread [' '] r (by simp)]
        rfl

inductive Inline : Json → Prop
  | scalar {j : Json} (h : Scalar j) : Inline j
  | array {items : List Json} (h : ∀ j ∈ items, Scalar j) : Inline (.array items)

theorem Inline.exists_text (h : Inline j) : ∃ t c cs, inlineText? j = some t ∧ t.toList = c :: cs ∧
    isBlank c = false ∧ ∀ r, value? (t.toList ++ '\n' :: r) = some (j, '\n' :: r) := by
  cases h with
  | scalar h =>
    obtain ⟨t, ht, htext⟩ := h.exists_text
    obtain ⟨c, cs, hcs, hc⟩ := htext.head
    refine ⟨t, c, cs, ht, hcs, isBlank_of_notMem hc, fun r => htext.valueWithin? _ ?_⟩
    rintro d ⟨⟩
    decide
  | @array items h =>
    obtain ⟨t, ht, hread⟩ := exists_itemsText h 78
    refine ⟨"[" ++ t ++ "]", '[', t.toList ++ [']'], ?_, by simp, rfl, fun r => ?_⟩
    · rw [inlineText?, ht]
      rfl
    · have hbracket : ("[" ++ t ++ "]").toList ++ '\n' :: r = '[' :: ([] ++ (t.toList ++ ']' :: '\n' :: r)) := by
        simp
      rw [hbracket]
      change (items? (valueWithin? 78) _).map _ = _
      rw [hread [] _ (by simp)]
      rfl

end EntityAudit.Toml
