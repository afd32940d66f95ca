import EntityAudit.Proofs.Decimal.Layout
import EntityAudit.Proofs.Json.Reader

/-!
A value is told by its compact text if its numbers are finite (`compact_injective`). This does not go through
the reader, which does not read every number from its text.
-/

namespace EntityAudit.Json

open Token

inductive IsFinite : Json → Prop
  | null : IsFinite null
  | bool {b : Bool} : IsFinite (bool b)
  | integer {n : Int} : IsFinite (integer n)
  | float {x : Float} : x.isFinite = true → IsFinite (float x)
  | text {s : String} : IsFinite (text s)
  | array {items : List Json} : (∀ j ∈ items, IsFinite j) → IsFinite (array items)
  | object {members : List (String × Json)} : (∀ m ∈ members, IsFinite m.2) → IsFinite (object members)

section Numbers

variable {x y : Float} {m n : Int} {cs ds r r' : List Char}

lemma floatText_eq (hx : x.isFinite = true) :
    floatText x = Decimal.signText x ++ numberLayout.magnitude x := by
  rw [floatText, if_pos hx, numberLayout.text_of_isFinite hx]

lemma isNumeric_sign {p : Prop} [Decidable p] {c : Char} (h : c ∈ (if p then "-" else "").toList) :
    isNumeric c = true := by
  split at h
  · obtain rfl := List.mem_singleton.mp h
    rfl
  · cases h

lemma isNumeric_floatText_of_isFinite (hx : x.isFinite = true) {c : Char} (h : c ∈ (floatText x).toList) :
    isNumeric c = true := by
  have hdigits : ∀ d ∈ Nat.toDigits 10 (Decimal.Binary.ofFloat x).shortest.digits, d.isDigit = true :=
    fun d hd => isDigit_of_mem_toDigits hd
  rw [floatText_eq hx, String.toList_append, List.mem_append] at h
  rcases h with h | h
  · exact isNumeric_sign h
  · unfold Decimal.Layout.magnitude at h
    dsimp only at h
    split at h
    · exact isNumeric_positionalText hdigits h
    · exact isNumeric_scientificText hdigits h

lemma exists_mark (hx : x.isFinite = true) : ∃ c ∈ (floatText x).toList, c = '.' ∨ c = 'e' := by
  have hmagnitude : ∃ c ∈ (numberLayout.magnitude x).toList, c = '.' ∨ c = 'e' := by
    unfold Decimal.Layout.magnitude
    dsimp only
    split
    · refine ⟨'.', ?_, .inl rfl⟩
      unfold Decimal.positionalText
      split
      · rw [String.toList_append]
        exact List.mem_append_right _ List.mem_cons_self
      · rw [String.toList_ofList]
        exact List.mem_append_right _ List.mem_cons_self
    · refine ⟨'e', ?_, .inr rfl⟩
      simp [Decimal.scientificText]
  obtain ⟨c, hc, hmark⟩ := hmagnitude
  refine ⟨c, ?_, hmark⟩
  rw [floatText_eq hx, String.toList_append]
  exact List.mem_append_right _ hc

lemma toString_eq (n : Int) : toString n = (if n < 0 then "-" else "") ++ n.natAbs.repr := by
  rw [Int.toString_eq_repr, Int.repr_eq_if]
  by_cases hn : 0 ≤ n
  · rw [if_pos hn, if_neg (by omega), String.empty_append]
    congr 1
    omega
  · rw [if_neg hn, if_pos (by omega)]
    congr 2
    omega

lemma head?_repr (n : Nat) : ∀ c ∈ n.repr.toList.head?, c.isDigit = true := by
  intro c hc
  rw [Nat.toList_repr] at hc
  exact isDigit_of_mem_toDigits (List.mem_of_head? hc)

lemma toString_injective (h : toString m = toString n) : m = n := by
  rw [toString_eq, toString_eq] at h
  obtain ⟨hsign, hrest⟩ := Decimal.sign_and_rest (head?_repr _) (head?_repr _) h
  have habs : m.natAbs = n.natAbs := by
    have hvalue := congrArg (fun s : String => Nat.ofDigitChars 10 s.toList 0) hrest
    simpa only [Nat.toList_repr, Nat.ofDigitChars_ten_toDigits] using hvalue
  omega

lemma toString_ne_floatText (hx : x.isFinite = true) : toString n ≠ floatText x := by
  intro heq
  obtain ⟨c, hc, hmark⟩ := exists_mark hx
  rw [← heq, toString_eq, String.toList_append, List.mem_append, Nat.toList_repr] at hc
  have hplain : c = '-' ∨ c.isDigit = true := by
    refine hc.imp (fun h => ?_) isDigit_of_mem_toDigits
    split at h
    · exact List.mem_singleton.mp h
    · cases h
  rcases hmark with rfl | rfl
  · exact absurd hplain (by decide)
  · exact absurd hplain (by decide)

lemma floatText_injective (hx : x.isFinite = true) (hy : y.isFinite = true) (h : floatText x = floatText y) :
    x = y := by
  rw [floatText, floatText, if_pos hx, if_pos hy] at h
  exact Decimal.Layout.text_injective rfl hx hy h

lemma numeric_inj (hcs : ∀ c ∈ cs, isNumeric c = true) (hds : ∀ c ∈ ds, isNumeric c = true)
    (hr : EndsNumber r) (hr' : EndsNumber r') (h : cs ++ r = ds ++ r') : cs = ds ∧ r = r' := by
  have htake : ∀ {s : List Char}, EndsNumber s → s.takeWhile isNumeric = [] := by
    intro s hs
    cases s with
    | nil => rfl
    | cons c s => exact List.takeWhile_cons_of_neg (by simp [hs c rfl])
  have hwhole := congrArg (List.takeWhile isNumeric) h
  rw [List.takeWhile_append_of_pos hcs, List.takeWhile_append_of_pos hds, htake hr, htake hr',
    List.append_nil, List.append_nil] at hwhole
  rw [hwhole] at h
  exact ⟨hwhole, List.append_cancel_left h⟩

end Numbers

section Elements

variable {α : Type} {write : α → List Char} {good : α → Prop} {close : Char} {l l' : List α} {r r' : List Char}

def Tells (write : α → List Char) (good : α → Prop) (a : α) : Prop :=
  ∀ b, good b → ∀ r r', EndsNumber r → EndsNumber r' → write a ++ r = write b ++ r' → a = b ∧ r = r'

def separated (write : α → List Char) : List α → List Char
  | [] => []
  | a :: l => write a ++ l.flatMap fun b => ',' :: write b

lemma endsNumber_separators (hclose : isNumeric close = false) (l : List α) (r : List Char) :
    EndsNumber ((l.flatMap fun b => ',' :: write b) ++ close :: r) := by
  cases l with
  | nil =>
    rintro c ⟨⟩
    exact hclose
  | cons b l =>
    rintro c ⟨⟩
    rfl

lemma separators_inj (hclose : isNumeric close = false) (hcomma : close ≠ ',')
    (hl : ∀ a ∈ l, Tells write good a) (hl' : ∀ b ∈ l', good b)
    (h : (l.flatMap fun b => ',' :: write b) ++ close :: r = (l'.flatMap fun b => ',' :: write b) ++ close :: r') :
    l = l' ∧ r = r' := by
  induction l generalizing l' with
  | nil =>
    cases l' with
    | nil => exact ⟨rfl, (List.cons.inj h).2⟩
    | cons b l' => exact absurd (List.cons.inj h).1 hcomma
  | cons a l ih =>
    cases l' with
    | nil => exact absurd (List.cons.inj h).1.symm hcomma
    | cons b l' =>
      obtain ⟨ha, hl⟩ := List.forall_mem_cons.mp hl
      obtain ⟨hb, hbs⟩ := List.forall_mem_cons.mp hl'
      simp only [List.flatMap_cons, List.cons_append, List.append_assoc, List.cons.injEq, true_and] at h
      obtain ⟨rfl, hrest⟩ := ha b hb _ _ (endsNumber_separators hclose l r) (endsNumber_separators hclose l' r') h
      obtain ⟨rfl, hr⟩ := ih hl hbs hrest
      exact ⟨rfl, hr⟩

lemma separated_inj (hclose : isNumeric close = false) (hcomma : close ≠ ',')
    (hstart : ∀ a, good a → ∀ r r', write a ++ r ≠ close :: r') (hgood : ∀ a ∈ l, good a)
    (hl : ∀ a ∈ l, Tells write good a) (hl' : ∀ b ∈ l', good b)
    (h : separated write l ++ close :: r = separated write l' ++ close :: r') : l = l' ∧ r = r' := by
  cases l with
  | nil =>
    cases l' with
    | nil => exact ⟨rfl, (List.cons.inj h).2⟩
    | cons b l' =>
      rw [separated, separated, List.append_assoc] at h
      exact absurd h.symm (hstart b (hl' b List.mem_cons_self) _ _)
  | cons a l =>
    cases l' with
    | nil =>
      rw [separated, separated, List.append_assoc] at h
      exact absurd h (hstart a (hgood a List.mem_cons_self) _ _)
    | cons b l' =>
      obtain ⟨ha, hl⟩ := List.forall_mem_cons.mp hl
      obtain ⟨hb, hbs⟩ := List.forall_mem_cons.mp hl'
      rw [separated, separated, List.append_assoc, List.append_assoc] at h
      obtain ⟨rfl, hrest⟩ := ha b hb _ _ (endsNumber_separators hclose l r) (endsNumber_separators hclose l' r') h
      obtain ⟨rfl, hr⟩ := separators_inj hclose hcomma hl hbs hrest
      exact ⟨rfl, hr⟩

end Elements

def chars (j : Json) : List Char := (compact j).toList

def memberChars (m : String × Json) : List Char := (quote m.1).toList ++ ':' :: chars m.2

lemma toList_items (l : List Json) : (compactItems l).toList = separated chars l := by
  induction l with
  | nil => rfl
  | cons j l ih =>
    cases l with
    | nil => simp [compactItems, separated, chars]
    | cons k l =>
      rw [compactItems, String.toList_append, String.toList_append, ih]
      · simp [separated, chars]
      · exact List.cons_ne_nil k l

lemma toList_members (l : List (String × Json)) : (compactMembers l).toList = separated memberChars l := by
  induction l with
  | nil => rfl
  | cons m l ih =>
    obtain ⟨name, j⟩ := m
    cases l with
    | nil => simp [compactMembers, separated, memberChars, chars]
    | cons k l =>
      rw [compactMembers, String.toList_append, String.toList_append, ih]
      · simp [separated, memberChars, chars]
      · exact List.cons_ne_nil k l

lemma chars_array (l : List Json) : chars (array l) = '[' :: (separated chars l ++ [']']) := by
  rw [chars, compact, String.toList_append, String.toList_append, toList_items]
  rfl

lemma chars_object (l : List (String × Json)) :
    chars (object l) = '\x7b' :: (separated memberChars l ++ ['\x7d']) := by
  rw [chars, compact, String.toList_append, String.toList_append, toList_members]
  rfl

inductive Shape where
  | null
  | bool (b : Bool)
  | number
  | text
  | array
  | object
  deriving DecidableEq

def shape : Json → Shape
  | null => .null
  | bool b => .bool b
  | integer _ => .number
  | float _ => .number
  | text _ => .text
  | array _ => .array
  | object _ => .object

def Shape.ofStart (c : Char) : Shape :=
  if isNumeric c then .number
  else if c = 'n' then .null
  else if c = 't' then .bool true
  else if c = 'f' then .bool false
  else if c = '"' then .text
  else if c = '[' then .array
  else .object

variable {j k : Json}

lemma exists_start (h : j.IsFinite) : ∃ c r, chars j = c :: r ∧ Shape.ofStart c = j.shape ∧ c ≠ ']' := by
  have hnumber : ∀ cs : List Char, cs ≠ [] → (∀ c ∈ cs, isNumeric c = true) →
      ∃ c r, cs = c :: r ∧ Shape.ofStart c = .number ∧ c ≠ ']' := by
    intro cs hne hcs
    cases cs with
    | nil => exact absurd rfl hne
    | cons c cs =>
      have hc := hcs c List.mem_cons_self
      refine ⟨c, cs, rfl, if_pos hc, ?_⟩
      rintro rfl
      cases hc
  cases h with
  | null => exact ⟨'n', _, rfl, rfl, by decide⟩
  | @bool b =>
    cases b with
    | true => exact ⟨'t', _, rfl, rfl, by decide⟩
    | false => exact ⟨'f', _, rfl, rfl, by decide⟩
  | @integer n =>
    refine hnumber _ ?_ fun c hc => isNumeric_integer hc
    change (toString n).toList ≠ []
    rw [toString_eq, String.toList_append, Nat.toList_repr]
    exact List.append_ne_nil_of_right_ne_nil _ Nat.toDigits_ne_nil
  | @float x hx =>
    refine hnumber _ ?_ fun c hc => isNumeric_floatText_of_isFinite hx hc
    obtain ⟨c, hc, -⟩ := exists_mark hx
    exact List.ne_nil_of_mem hc
  | @text s =>
    have hquote : chars (text s) = '"' :: ((String.join (s.toList.map escape)).toList ++ ['"']) := by
      simp [chars, compact, scalarText, quote]
    exact ⟨'"', _, hquote, rfl, by decide⟩
  | array => exact ⟨'[', _, chars_array _, rfl, by decide⟩
  | object => exact ⟨'\x7b', _, chars_object _, rfl, by decide⟩

lemma quote_inj {s t : String} {r r' : List Char} (h : (quote s).toList ++ r = (quote t).toList ++ r') :
    s = t ∧ r = r' := by
  have hnext := congrArg Token.next? h
  rw [Token.next?_quote, Token.next?_quote] at hnext
  simpa using hnext

lemma number_inj {r r' : List Char} (hj : j.IsFinite) (hk : k.IsFinite) (hshape : j.shape = .number)
    (hshape' : k.shape = .number) (hr : EndsNumber r) (hr' : EndsNumber r') (h : chars j ++ r = chars k ++ r') :
    j = k ∧ r = r' := by
  cases hj with
  | @integer m =>
    cases hk with
    | @integer n =>
      obtain ⟨htext, hrest⟩ := numeric_inj (fun c hc => isNumeric_integer hc) (fun c hc => isNumeric_integer hc)
        hr hr' h
      exact ⟨congrArg integer (toString_injective (String.toList_injective htext)), hrest⟩
    | @float y hy =>
      obtain ⟨htext, -⟩ := numeric_inj (fun c hc => isNumeric_integer hc)
        (fun c hc => isNumeric_floatText_of_isFinite hy hc) hr hr' h
      exact absurd (String.toList_injective htext) (toString_ne_floatText hy)
    | _ => cases hshape'
  | @float x hx =>
    cases hk with
    | @integer n =>
      obtain ⟨htext, -⟩ := numeric_inj (fun c hc => isNumeric_floatText_of_isFinite hx hc)
        (fun c hc => isNumeric_integer hc) hr hr' h
      exact absurd (String.toList_injective htext).symm (toString_ne_floatText hx)
    | @float y hy =>
      obtain ⟨htext, hrest⟩ := numeric_inj (fun c hc => isNumeric_floatText_of_isFinite hx hc)
        (fun c hc => isNumeric_floatText_of_isFinite hy hc) hr hr' h
      exact ⟨congrArg float (floatText_injective hx hy (String.toList_injective htext)), hrest⟩
    | _ => cases hshape'
  | _ => cases hshape

lemma tells_member {m : String × Json} (h : Tells chars IsFinite m.2) :
    Tells memberChars (fun m => IsFinite m.2) m := by
  intro n hn r r' hr hr' heq
  rw [memberChars, memberChars, List.append_assoc, List.append_assoc] at heq
  obtain ⟨hname, hrest⟩ := quote_inj heq
  obtain ⟨hvalue, hr⟩ := h n.2 hn r r' hr hr' (List.cons.inj hrest).2
  exact ⟨Prod.ext hname hvalue, hr⟩

lemma shape_eq {r r' : List Char} (hj : j.IsFinite) (hk : k.IsFinite) (h : chars j ++ r = chars k ++ r') :
    j.shape = k.shape := by
  obtain ⟨c, s, hc, hshape, -⟩ := exists_start hj
  obtain ⟨d, t, hd, hshape', -⟩ := exists_start hk
  rw [hc, hd] at h
  rw [← hshape, ← hshape', (List.cons.inj h).1]

lemma items_inj {l l' : List Json} {r r' : List Char} (hgood : ∀ j ∈ l, j.IsFinite)
    (hl : ∀ j ∈ l, Tells chars IsFinite j) (hl' : ∀ j ∈ l', j.IsFinite)
    (h : separated chars l ++ ']' :: r = separated chars l' ++ ']' :: r') : l = l' ∧ r = r' := by
  refine separated_inj rfl (by decide) (fun j hj s t heq => ?_) hgood hl hl' h
  obtain ⟨c, u, hc, -, hne⟩ := exists_start hj
  rw [hc] at heq
  exact hne (List.cons.inj heq).1

lemma members_inj {l l' : List (String × Json)} {r r' : List Char} (hgood : ∀ m ∈ l, IsFinite m.2)
    (hl : ∀ m ∈ l, Tells chars IsFinite m.2) (hl' : ∀ m ∈ l', IsFinite m.2)
    (h : separated memberChars l ++ '\x7d' :: r = separated memberChars l' ++ '\x7d' :: r') :
    l = l' ∧ r = r' := by
  refine separated_inj rfl (by decide) (fun m _ s t heq => ?_) hgood (fun m hm => tells_member (hl m hm)) hl' h
  simp [memberChars, quote] at heq

theorem tells_of_isFinite (h : j.IsFinite) : Tells chars IsFinite j := by
  induction h with
  | null =>
    intro k hk r r' _ _ heq
    have hshape := shape_eq .null hk heq
    cases hk with
    | null => exact ⟨rfl, List.append_cancel_left heq⟩
    | _ => cases hshape
  | @bool b =>
    intro k hk r r' _ _ heq
    have hshape := shape_eq .bool hk heq
    cases hk with
    | @bool b' =>
      obtain rfl := Shape.bool.inj hshape
      exact ⟨rfl, List.append_cancel_left heq⟩
    | _ => cases hshape
  | integer =>
    intro k hk r r' hr hr' heq
    exact number_inj .integer hk rfl (shape_eq .integer hk heq).symm hr hr' heq
  | float hx =>
    intro k hk r r' hr hr' heq
    exact number_inj (.float hx) hk rfl (shape_eq (.float hx) hk heq).symm hr hr' heq
  | @text s =>
    intro k hk r r' _ _ heq
    have hshape := shape_eq .text hk heq
    cases hk with
    | @text t =>
      obtain ⟨rfl, hr⟩ := quote_inj heq
      exact ⟨rfl, hr⟩
    | _ => cases hshape
  | @array l hl ih =>
    intro k hk r r' _ _ heq
    have hshape := shape_eq (.array hl) hk heq
    cases hk with
    | @array l' hl' =>
      rw [chars_array, chars_array, List.cons_append, List.cons_append, List.append_assoc, List.append_assoc] at heq
      obtain ⟨rfl, hr⟩ := items_inj hl ih hl' (List.cons.inj heq).2
      exact ⟨rfl, hr⟩
    | _ => cases hshape
  | @object l hl ih =>
    intro k hk r r' _ _ heq
    have hshape := shape_eq (.object hl) hk heq
    cases hk with
    | @object l' hl' =>
      rw [chars_object, chars_object, List.cons_append, List.cons_append, List.append_assoc,
        List.append_assoc] at heq
      obtain ⟨rfl, hr⟩ := members_inj hl ih hl' (List.cons.inj heq).2
      exact ⟨rfl, hr⟩
    | _ => cases hshape

theorem compact_injective (hj : j.IsFinite) (hk : k.IsFinite) (h : compact j = compact k) : j = k := by
  have hchars : chars j ++ [] = chars k ++ [] := by rw [chars, chars, h]
  exact (tells_of_isFinite hj k hk [] [] nofun nofun hchars).1

end EntityAudit.Json
