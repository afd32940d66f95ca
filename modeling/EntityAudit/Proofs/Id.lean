import EntityAudit.Id
import EntityAudit.Proofs.Text.Number

namespace EntityAudit

lemma idNumber?_toDigits (n : UInt64) :
    idNumber? (Nat.toDigits 10 n.toNat) = if n = 0 then none else some n := by
  by_cases h : n = 0
  · subst h
    rfl
  · have hn : n.toNat ≠ 0 := fun hz => h (UInt64.toNat_inj.mp hz)
    have hhead : ∀ cs, Nat.toDigits 10 n.toNat ≠ '0' :: cs := by
      intro cs hcs
      exact Text.head?_toDigits hn (by rw [hcs, List.head?_cons])
    have hread : Text.natural? UInt64.size (Text.zeroPadded 0 n.toNat).toList = some n.toNat :=
      Text.natural?_zeroPadded n.toNat_lt
    rw [Text.toList_zeroPadded, Nat.zero_sub, List.replicate_zero, List.nil_append] at hread
    rw [if_neg h, idNumber?.eq_3 _ Nat.toDigits_ne_nil hhead, hread, Option.map_some, UInt64.ofNat_toNat]

lemma idNumber?_eq_some {cs : List Char} {n : UInt64} (h : idNumber? cs = some n) :
    (∀ r, cs ≠ '0' :: r) ∧ Text.natural? UInt64.size cs = some n.toNat := by
  unfold idNumber? at h
  split at h
  · cases h
  · cases h
  · rename_i hhead
    refine ⟨hhead, ?_⟩
    obtain ⟨m, hm, rfl⟩ := Option.map_eq_some_iff.mp h
    have hlt : m < UInt64.size := by
      unfold Text.natural? at hm
      split at hm
      · simpa using (Option.filter_eq_some_iff.mp hm).2
      · simpa using (Option.filter_eq_some_iff.mp hm).2
    rw [hm, UInt64.toNat_ofNat_of_lt' hlt]

def numberBehind? (upper lower : Char) (s : String) : Option UInt64 :=
  match s.toList with
  | c :: cs => if c = upper ∨ c = lower then idNumber? cs else none
  | [] => none

/-- A letter, a plus sign, and zeros. -/
def IsSignedZero (s : String) : Prop := ∃ c k, s.toList = c :: '+' :: List.replicate (k + 1) '0'

variable {s : String} {upper lower : Char}

lemma numberBehind?_of_toList {n : UInt64} (h : s.toList = upper :: Nat.toDigits 10 n.toNat) :
    numberBehind? upper lower s = if n = 0 then none else some n := by
  simp only [numberBehind?, h, true_or, if_true, idNumber?_toDigits]

lemma eq_zero_iff_isSignedZero {n : UInt64} (h : numberBehind? upper lower s = some n) :
    n = 0 ↔ IsSignedZero s := by
  unfold numberBehind? at h
  split at h
  · rename_i c cs hs
    obtain ⟨-, h⟩ := Option.ite_none_right_eq_some.mp h
    obtain ⟨hhead, hread⟩ := idNumber?_eq_some h
    have hsigned : IsSignedZero s ↔ ∃ k, cs = '+' :: List.replicate (k + 1) '0' := by
      simp [IsSignedZero, hs]
    have hzero : n = 0 ↔ Text.natural? UInt64.size cs = some 0 := by
      rw [hread, Option.some.injEq, ← UInt64.toNat_inj, UInt64.toNat_zero]
    rw [hsigned, hzero]
    constructor
    · intro hz
      unfold Text.natural? at hz
      split at hz
      · obtain ⟨k, hk⟩ := Text.digits?_eq_some_zero.mp (Option.filter_eq_some_iff.mp hz).1
        exact ⟨k, by rw [hk]⟩
      -- Without a sign the zeros would stand in front, where none is accepted.
      · obtain ⟨k, hk⟩ := Text.digits?_eq_some_zero.mp (Option.filter_eq_some_iff.mp hz).1
        exact absurd (hk.trans List.replicate_succ) (hhead _)
    · rintro ⟨k, rfl⟩
      have hdigits := Text.digits?_eq_some_zero.mpr ⟨k, rfl⟩
      exact Option.filter_eq_some_iff.mpr ⟨hdigits, by decide⟩
  · cases h

namespace ItemId

lemma ofString?_eq (s : String) : ofString? s = (numberBehind? 'Q' 'q' s).map mk := by
  unfold ofString? numberBehind?
  cases s.toList with
  | nil => rfl
  | cons c cs =>
    by_cases hupper : c = 'Q'
    · simp [hupper]
    · by_cases hlower : c = 'q'
      · simp [hlower]
      · simp [hupper, hlower]

lemma ofString?_toString (id : ItemId) :
    ofString? id.toString = if id.number = 0 then none else some id := by
  have htext : id.toString.toList = 'Q' :: Nat.toDigits 10 id.number.toNat := by simp [toString]
  rw [ofString?_eq, numberBehind?_of_toList htext]
  split
  · rfl
  · rfl

lemma number_eq_zero_iff {id : ItemId} (h : ofString? s = some id) : id.number = 0 ↔ IsSignedZero s := by
  rw [ofString?_eq] at h
  obtain ⟨n, hn, rfl⟩ := Option.map_eq_some_iff.mp h
  exact eq_zero_iff_isSignedZero hn

end ItemId

namespace PropertyId

lemma ofString?_eq (s : String) : ofString? s = (numberBehind? 'P' 'p' s).map mk := by
  unfold ofString? numberBehind?
  cases s.toList with
  | nil => rfl
  | cons c cs =>
    by_cases hupper : c = 'P'
    · simp [hupper]
    · by_cases hlower : c = 'p'
      · simp [hlower]
      · simp [hupper, hlower]

lemma ofString?_toString (id : PropertyId) :
    ofString? id.toString = if id.number = 0 then none else some id := by
  have htext : id.toString.toList = 'P' :: Nat.toDigits 10 id.number.toNat := by simp [toString]
  rw [ofString?_eq, numberBehind?_of_toList htext]
  split
  · rfl
  · rfl

lemma number_eq_zero_iff {id : PropertyId} (h : ofString? s = some id) :
    id.number = 0 ↔ IsSignedZero s := by
  rw [ofString?_eq] at h
  obtain ⟨n, hn, rfl⟩ := Option.map_eq_some_iff.mp h
  exact eq_zero_iff_isSignedZero hn

end PropertyId

namespace EntityId

def number : EntityId → UInt64
  | item id => id.number
  | property id => id.number

lemma ofString?_eq_or (s : String) :
    ofString? s = ((ItemId.ofString? s).map item).or ((PropertyId.ofString? s).map property) := by
  simp only [ItemId.ofString?_eq, PropertyId.ofString?_eq, ofString?, numberBehind?]
  cases s.toList with
  | nil => rfl
  | cons c cs =>
    by_cases hitem : c = 'Q' ∨ c = 'q'
    · rcases hitem with rfl | rfl
      · simp
      · simp
    · by_cases hproperty : c = 'P' ∨ c = 'p'
      · rcases hproperty with rfl | rfl
        · simp
        · simp
      · obtain ⟨hQ, hq⟩ := not_or.mp hitem
        obtain ⟨hP, hp⟩ := not_or.mp hproperty
        simp [hQ, hq, hP, hp]

lemma ofString?_toString (id : EntityId) :
    ofString? id.toString = if id.number = 0 then none else some id := by
  cases id with
  | item id =>
    have hproperty : PropertyId.ofString? id.toString = none := by
      simp [PropertyId.ofString?, ItemId.toString]
    change ofString? id.toString = if id.number = 0 then none else _
    rw [ofString?_eq_or, ItemId.ofString?_toString, hproperty]
    split
    · rfl
    · rfl
  | property id =>
    have hitem : ItemId.ofString? id.toString = none := by
      simp [ItemId.ofString?, PropertyId.toString]
    change ofString? id.toString = if id.number = 0 then none else _
    rw [ofString?_eq_or, PropertyId.ofString?_toString, hitem]
    split
    · rfl
    · rfl

lemma toString_injective : Function.Injective toString := by
  have hnumber : ∀ m n : UInt64, Nat.toDigits 10 m.toNat = Nat.toDigits 10 n.toNat → m = n := by
    intro m n h
    have hvalue := congrArg (Nat.ofDigitChars 10 · 0) h
    simp only [Nat.ofDigitChars_ten_toDigits] at hvalue
    exact UInt64.toNat_inj.mp hvalue
  intro a b h
  have htext := congrArg String.toList h
  cases a with
  | item a =>
    cases b with
    | item b =>
      have hdigits : Nat.toDigits 10 a.number.toNat = Nat.toDigits 10 b.number.toNat := by
        simpa [toString, ItemId.toString] using htext
      exact congrArg (fun n => item ⟨n⟩) (hnumber _ _ hdigits)
    | property b => simp [toString, ItemId.toString, PropertyId.toString] at htext
  | property a =>
    cases b with
    | item b => simp [toString, ItemId.toString, PropertyId.toString] at htext
    | property b =>
      have hdigits : Nat.toDigits 10 a.number.toNat = Nat.toDigits 10 b.number.toNat := by
        simpa [toString, PropertyId.toString] using htext
      exact congrArg (fun n => property ⟨n⟩) (hnumber _ _ hdigits)

lemma number_eq_zero_iff {id : EntityId} (h : ofString? s = some id) : id.number = 0 ↔ IsSignedZero s := by
  rw [ofString?_eq_or, Option.or_eq_some_iff] at h
  rcases h with h | ⟨-, h⟩
  · obtain ⟨id, hid, rfl⟩ := Option.map_eq_some_iff.mp h
    exact ItemId.number_eq_zero_iff hid
  · obtain ⟨id, hid, rfl⟩ := Option.map_eq_some_iff.mp h
    exact PropertyId.number_eq_zero_iff hid

end EntityId

/-- An identifier that was read is read again from its text, unless it was written as a signed zero. An
entity is read exactly where an item or a property is. -/
theorem reread_iff_not_isSignedZero (s : String) :
    (∀ id, ItemId.ofString? s = some id → (ItemId.ofString? id.toString = some id ↔ ¬ IsSignedZero s)) ∧
    (∀ id, PropertyId.ofString? s = some id →
      (PropertyId.ofString? id.toString = some id ↔ ¬ IsSignedZero s)) ∧
    (∀ id, EntityId.ofString? s = some id →
      (EntityId.ofString? id.toString = some id ↔ ¬ IsSignedZero s)) ∧
    EntityId.ofString? s =
      ((ItemId.ofString? s).map .item).or ((PropertyId.ofString? s).map .property) := by
  refine ⟨fun id h => ?_, fun id h => ?_, fun id h => ?_, EntityId.ofString?_eq_or s⟩
  · rw [ItemId.ofString?_toString, ← ItemId.number_eq_zero_iff h]
    simp
  · rw [PropertyId.ofString?_toString, ← PropertyId.number_eq_zero_iff h]
    simp
  · rw [EntityId.ofString?_toString, ← EntityId.number_eq_zero_iff h]
    simp

theorem lower_case_reread :
    ItemId.ofString? "q+042" = some ⟨42⟩ ∧ ItemId.ofString? (ItemId.toString ⟨42⟩) = some ⟨42⟩ ∧
      EntityId.ofString? "q+042" = some (.item ⟨42⟩) ∧
        EntityId.ofString? (EntityId.toString (.item ⟨42⟩)) = some (.item ⟨42⟩) ∧
          PropertyId.ofString? "p31" = some ⟨31⟩ ∧
            PropertyId.ofString? (PropertyId.toString ⟨31⟩) = some ⟨31⟩ := by
  have hitem : ItemId.ofString? "q+042" = some ⟨42⟩ := by decide
  have hentity : EntityId.ofString? "q+042" = some (.item ⟨42⟩) := by decide
  have hproperty : PropertyId.ofString? "p31" = some ⟨31⟩ := by decide
  have hsigned : ¬ IsSignedZero "q+042" := fun h => absurd ((ItemId.number_eq_zero_iff hitem).mpr h) (by decide)
  have hplain : ¬ IsSignedZero "p31" :=
    fun h => absurd ((PropertyId.number_eq_zero_iff hproperty).mpr h) (by decide)
  obtain ⟨hitem', -, hentity', -⟩ := reread_iff_not_isSignedZero "q+042"
  obtain ⟨-, hproperty', -⟩ := reread_iff_not_isSignedZero "p31"
  exact ⟨hitem, (hitem' _ hitem).mpr hsigned, hentity, (hentity' _ hentity).mpr hsigned, hproperty,
    (hproperty' _ hproperty).mpr hplain⟩

theorem signed_zero_not_reread :
    ItemId.ofString? "Q+0" = some ⟨0⟩ ∧ ItemId.toString ⟨0⟩ = "Q0" ∧ ItemId.ofString? "Q0" = none := by
  decide

end EntityAudit
