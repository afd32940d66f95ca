import EntityAudit.Regex.Escape
import Mathlib.Data.List.Infix
import Mathlib.Data.List.TakeWhile

/-!
Reading a part of a pattern does not depend on a closing parenthesis and a dollar sign that follow the pattern, as
long as they are left over.
-/

namespace EntityAudit.Pattern

def closing : List Char := [')', '$']

@[simp] lemma length_closing : closing.length = 2 := rfl

lemma cut_append {c : Char} (hc : c ∉ closing) (cs : List Char) :
    cs.dropWhile (· ≠ c) = [] ∧ (cs ++ closing).dropWhile (· ≠ c) = [] ∨
      cs.dropWhile (· ≠ c) ≠ [] ∧ (cs ++ closing).takeWhile (· ≠ c) = cs.takeWhile (· ≠ c) ∧
        (cs ++ closing).dropWhile (· ≠ c) = cs.dropWhile (· ≠ c) ++ closing := by
  rw [List.takeWhile_append, List.dropWhile_append]
  have hsplit := congrArg List.length (@List.takeWhile_append_dropWhile Char (· ≠ c) cs)
  rcases hrest : cs.dropWhile (· ≠ c) with _ | ⟨d, r⟩
  · left
    have hclosing : closing.dropWhile (· ≠ c) = [] :=
      List.dropWhile_eq_nil_iff.mpr fun d hd => decide_eq_true (ne_of_mem_of_not_mem hd hc)
    exact ⟨rfl, hclosing⟩
  · right
    rw [hrest, List.length_append, List.length_cons] at hsplit
    rw [if_neg (by omega), if_neg (by simp)]
    exact ⟨List.cons_ne_nil _ _, rfl, rfl⟩

structure Local {α : Type} (keep take : Nat) (F : List Char → Option (α × List Char)) : Prop where
  suffix : ∀ {cs a m}, F cs = some (a, m) → m <:+ cs ∧ m.length + take ≤ cs.length
  append_iff : ∀ {cs a m}, keep ≤ m.length → (F (cs ++ closing) = some (a, m ++ closing) ↔ F cs = some (a, m))

namespace Local

variable {α β : Type} {keep take : Nat} {F : List Char → Option (α × List Char)} {cs m : List Char}

lemma weaken {take' : Nat} (h : Local keep take F) (htake : take' ≤ take) : Local keep take' F := by
  refine ⟨fun hcs => ?_, h.append_iff⟩
  obtain ⟨hsuffix, hlength⟩ := h.suffix hcs
  exact ⟨hsuffix, by omega⟩

lemma congr {G : List Char → Option (α × List Char)} (h : Local keep take F) (hFG : ∀ cs, G cs = F cs) :
    Local keep take G := by
  rwa [funext hFG]

lemma fail : Local keep take (fun _ => (none : Option (α × List Char))) :=
  ⟨nofun, fun _ => iff_of_false nofun nofun⟩

lemma pure (a : α) : Local keep 0 (fun cs => some (a, cs)) := by
  refine ⟨fun h => ?_, fun _ => ?_⟩
  · cases h
    exact ⟨List.suffix_refl _, Nat.le_refl _⟩
  · simp

lemma lift (keep : Nat) (o : Option α) : Local keep 0 fun cs => do return (← o, cs) := by
  cases o with
  | none => exact .fail
  | some a => exact .pure a

lemma lift_map (keep : Nat) (o : Option β) (f : β → α) : Local keep 0 fun cs => o.map fun b => (f b, cs) := by
  cases o with
  | none => exact .fail
  | some b => exact .pure (f b)

lemma ite {p : Prop} [Decidable p] {G : List Char → Option (α × List Char)} (hF : Local keep take F)
    (hG : Local keep take G) : Local keep take fun cs => if p then F cs else G cs := by
  split
  · exact hF
  · exact hG

lemma leaves {a : α} {r : List Char} (h : Local keep take F) (hcs : F (cs ++ closing) = some (a, r)) :
    (∃ m, r = m ++ closing) ∨ r <:+ ['$'] := by
  rcases List.suffix_or_suffix_of_suffix (h.suffix hcs).1 (List.suffix_append cs closing) with hr | ⟨m, hm⟩
  · rcases List.suffix_cons_iff.mp hr with rfl | hr
    · exact .inl ⟨[], rfl⟩
    · exact .inr hr
  · exact .inl ⟨m, hm.symm⟩

lemma of_append (hsuffix : ∀ {cs a m}, F cs = some (a, m) → m <:+ cs)
    (happend : ∀ cs, F (cs ++ closing) = (F cs).map fun x => (x.1, x.2 ++ closing)) : Local keep 0 F := by
  refine ⟨fun h => ⟨hsuffix h, (hsuffix h).length_le⟩, fun {cs a m} _ => ?_⟩
  rw [happend, Option.map_eq_some_iff]
  constructor
  · rintro ⟨⟨b, n⟩, hcs, hb⟩
    simp only [Prod.mk.injEq, List.append_cancel_right_eq] at hb
    rwa [hb.1, hb.2] at hcs
  · exact fun hcs => ⟨(a, m), hcs, rfl⟩

lemma iteOn (p : List Char → Prop) [DecidablePred p] {G : List Char → Option (α × List Char)}
    (hp : ∀ cs, p (cs ++ closing) ↔ p cs) (hF : Local keep take F) (hG : Local keep take G) :
    Local keep take fun cs => if p cs then F cs else G cs := by
  constructor
  · intro cs a m h
    split at h
    · exact hF.suffix h
    · exact hG.suffix h
  · intro cs a m hm
    by_cases h : p cs
    · rw [if_pos ((hp cs).mpr h), if_pos h]
      exact hF.append_iff hm
    · rw [if_neg (h ∘ (hp cs).mp), if_neg h]
      exact hG.append_iff hm

lemma unlessEmpty (h : Local 1 take F) : Local 1 take fun cs => if cs.isEmpty then none else F cs := by
  constructor
  · intro cs a m hcs
    split at hcs
    · cases hcs
    · exact h.suffix hcs
  · intro cs a m hm
    cases cs with
    | nil =>
      refine iff_of_false (fun hclosing => ?_) nofun
      obtain ⟨-, hlength⟩ := h.suffix (show F closing = _ from hclosing)
      rw [List.length_append, length_closing] at hlength
      omega
    | cons c r => exact @append_iff _ _ _ _ h (c :: r) _ _ hm

lemma bind_append_iff {k t : Nat} {G : α → List Char → Option (β × List Char)} {b : β} (hF : Local k t F)
    (hsuffix : ∀ {a x b m}, G a x = some (b, m) → m <:+ x ∧ m.length + take ≤ x.length)
    (hG : ∀ a x, x.length + t ≤ cs.length → (G a (x ++ closing) = some (b, m ++ closing) ↔ G a x = some (b, m)))
    (hk : k ≤ m.length + take) :
    ((F (cs ++ closing)).bind fun x => G x.1 x.2) = some (b, m ++ closing) ↔
      ((F cs).bind fun x => G x.1 x.2) = some (b, m) := by
  constructor
  · intro h
    obtain ⟨⟨a, x⟩, hx, hmx⟩ := Option.bind_eq_some_iff.mp h
    -- the closing is left over in the end, so it is left over in between
    obtain ⟨hms, hml⟩ := hsuffix hmx
    obtain ⟨y, rfl⟩ := (List.suffix_append m closing).trans hms
    have hy : k ≤ y.length := by
      simp only [List.length_append] at hml
      omega
    rw [hF.append_iff hy] at hx
    exact Option.bind_eq_some_iff.mpr ⟨(a, y), hx, (hG a y (hF.suffix hx).2).mp hmx⟩
  · intro h
    obtain ⟨⟨a, x⟩, hx, hmx⟩ := Option.bind_eq_some_iff.mp h
    obtain ⟨-, hml⟩ := hsuffix hmx
    dsimp only at hml hmx
    refine Option.bind_eq_some_iff.mpr ⟨(a, x ++ closing), ?_, (hG a x (hF.suffix hx).2).mpr hmx⟩
    rwa [hF.append_iff (by omega)]

lemma bind {k t : Nat} {G : α → List Char → Option (β × List Char)} (hF : Local k t F)
    (hG : ∀ a, Local keep take (G a)) (hk : k ≤ keep + take) :
    Local keep (t + take) fun cs => (F cs).bind fun x => G x.1 x.2 := by
  constructor
  · intro cs b m h
    obtain ⟨⟨a, x⟩, hx, hm⟩ := Option.bind_eq_some_iff.mp h
    obtain ⟨hxs, hxl⟩ := hF.suffix hx
    obtain ⟨hms, hml⟩ := (hG a).suffix hm
    exact ⟨hms.trans hxs, by dsimp only at hml; omega⟩
  · intro cs b m hm
    exact hF.bind_append_iff (fun h => (hG _).suffix h) (fun a x _ => (hG a).append_iff hm) (by omega)

lemma map (hF : Local keep take F) (f : α → β) : Local keep take fun cs => (F cs).map fun x => (f x.1, x.2) := by
  have hpure (a : α) : Local keep 0 fun m => some (f a, m) := .pure (f a)
  have h := hF.bind hpure (by omega)
  simpa [Option.map_eq_bind, Function.comp_def] using h

lemma of_cons (hnil : F [] = none) (hcons : ∀ c, Local keep take fun r => F (c :: r)) : Local keep (take + 1) F := by
  constructor
  · intro cs a m h
    cases cs with
    | nil =>
      rw [hnil] at h
      cases h
    | cons c r =>
      obtain ⟨hs, hl⟩ := (hcons c).suffix h
      exact ⟨hs.trans (List.suffix_cons c r), Nat.succ_le_succ hl⟩
  · intro cs a m hm
    cases cs with
    | nil =>
      rw [hnil]
      refine iff_of_false (fun h => ?_) nofun
      have hlength := ((hcons ')').suffix h).1.length_le
      simp at hlength
    | cons c r => exact (hcons c).append_iff hm

lemma cons (h : Local keep (take + 1) F) (c : Char) : Local keep take fun r => F (c :: r) := by
  refine ⟨fun hr => ?_, fun {cs} _ _ hm => @append_iff _ _ _ _ h (c :: cs) _ _ hm⟩
  obtain ⟨hs, hl⟩ := h.suffix hr
  rw [List.length_cons] at hl
  rcases List.suffix_cons_iff.mp hs with rfl | hs
  · rw [List.length_cons] at hl
    omega
  · exact ⟨hs, by omega⟩

lemma branch {t : Nat} {G : List Char → Option (α × List Char)} {c₀ : Char} (hc₀ : c₀ ≠ ')') (hF : Local keep t F)
    (hG : Local keep take G) (ht : take ≤ t + 1) :
    Local keep take fun cs => if cs.head? = some c₀ then F cs.tail else G cs := by
  constructor
  · rintro (_ | ⟨c, r⟩) a m h
    · exact hG.suffix h
    · split at h
      · obtain ⟨hs, hl⟩ := hF.suffix h
        exact ⟨hs.trans (List.suffix_cons c r), by simp at hl ⊢; omega⟩
      · exact hG.suffix h
  · rintro (_ | ⟨c, r⟩) a m hm
    · rw [if_neg (by simpa [closing] using hc₀.symm), if_neg (by simp)]
      exact hG.append_iff hm
    · rw [List.cons_append, List.head?_cons, List.head?_cons]
      split
      · exact hF.append_iff hm
      · exact @append_iff _ _ _ _ hG (c :: r) _ _ hm

lemma of_total {g : List Char → α × List Char} (hsuffix : ∀ cs, (g cs).2 <:+ cs)
    (happend : ∀ cs, g (cs ++ closing) = ((g cs).1, (g cs).2 ++ closing) ∨
      (g cs).2 = [] ∧ (g (cs ++ closing)).2.length ≤ 2) : Local 1 0 fun cs => some (g cs) := by
  constructor
  · intro cs a m h
    obtain rfl : (g cs).2 = m := congrArg Prod.snd (Option.some.inj h)
    exact ⟨hsuffix cs, (hsuffix cs).length_le⟩
  · intro cs a m hm
    simp only [Option.some.injEq]
    rcases happend cs with h | ⟨hnil, hshort⟩
    · rw [h, Prod.ext_iff, Prod.ext_iff, List.append_cancel_right_eq]
    · refine iff_of_false (fun h => ?_) fun h => ?_
      · rw [h, List.length_append, length_closing] at hshort
        omega
      · rw [h] at hnil
        obtain rfl : m = [] := hnil
        cases hm

end Local

section Blanks

variable {verbose : Bool} {α : Type} {keep take : Nat} {F : List Char → Option (α × List Char)}

lemma dropBlanks_append (inComment : Bool) (cs : List Char) :
    dropBlanks inComment (cs ++ closing) = dropBlanks inComment cs ++ closing ∨
      dropBlanks inComment cs = [] ∧ dropBlanks inComment (cs ++ closing) = [] := by
  induction cs generalizing inComment with
  | nil =>
    cases inComment with
    | false => exact .inl (by decide)
    | true => exact .inr (by decide)
  | cons c r ih =>
    rw [List.cons_append, dropBlanks, dropBlanks]
    split
    · exact ih _
    · split
      · exact ih _
      · split
        · exact ih _
        · exact .inl rfl

lemma skip_append (verbose : Bool) (cs : List Char) :
    skip verbose (cs ++ closing) = skip verbose cs ++ closing ∨
      skip verbose cs = [] ∧ skip verbose (cs ++ closing) = [] := by
  unfold skip
  split
  · exact dropBlanks_append false cs
  · exact .inl rfl

lemma dropBlanks_suffix (inComment : Bool) (cs : List Char) : dropBlanks inComment cs <:+ cs := by
  induction cs generalizing inComment with
  | nil => exact List.suffix_refl _
  | cons c r ih =>
    rw [dropBlanks]
    split
    · exact (ih _).trans (List.suffix_cons c r)
    · split
      · exact (ih _).trans (List.suffix_cons c r)
      · split
        · exact (ih _).trans (List.suffix_cons c r)
        · exact List.suffix_refl _

lemma skip_suffix (verbose : Bool) (cs : List Char) : skip verbose cs <:+ cs := by
  unfold skip
  split
  · exact dropBlanks_suffix false cs
  · exact List.suffix_refl _

@[simp] lemma skip_nil (verbose : Bool) : skip verbose [] = [] := by cases verbose <;> rfl

lemma Local.skip (verbose : Bool) (hF : Local keep take F) (h : 1 ≤ keep + take) :
    Local keep take fun cs => F (Pattern.skip verbose cs) := by
  have hskip : Local 1 0 fun cs => some ((), Pattern.skip verbose cs) := by
    refine .of_total (skip_suffix verbose) fun cs => ?_
    rcases skip_append verbose cs with happend | ⟨hnil, hclosing⟩
    · exact .inl (by rw [happend])
    · exact .inr ⟨hnil, by simp [hclosing]⟩
  simpa using hskip.bind (fun _ => hF) h

lemma run_nil (p : Char → Bool) : run verbose p [] = ([], []) := by rw [run]

lemma run_cons (p : Char → Bool) (c : Char) (r : List Char) : run verbose p (c :: r) =
    if p c then (c :: (run verbose p (skip verbose r)).1, (run verbose p (skip verbose r)).2) else ([], c :: r) := by
  rw [run]

lemma run_suffix (p : Char → Bool) (cs : List Char) : (run verbose p cs).2 <:+ cs := by
  induction cs using run.induct verbose p with
  | case1 => simp [run_nil]
  | case2 c r hc l rest hrest ih =>
    rw [run_cons, if_pos hc]
    exact (ih.trans (skip_suffix _ _)).trans (List.suffix_cons c r)
  | case3 c r hc =>
    rw [run_cons, if_neg hc]

lemma run_append (p : Char → Bool) (cs : List Char) :
    run verbose p (cs ++ closing) = ((run verbose p cs).1, (run verbose p cs).2 ++ closing) ∨
      (run verbose p cs).2 = [] ∧ (run verbose p (cs ++ closing)).2.length ≤ 2 := by
  induction cs using run.induct verbose p with
  | case1 =>
    refine .inr ⟨by rw [run_nil], ?_⟩
    exact (run_suffix p closing).length_le
  | case2 c r hc l rest hrest ih =>
    rw [List.cons_append, run_cons, run_cons, if_pos hc, if_pos hc]
    rcases skip_append verbose r with happend | ⟨hnil, hclosing⟩
    · rw [happend]
      rcases ih with ih | ih
      · rw [ih]
        exact .inl rfl
      · exact .inr ih
    · rw [hnil, hclosing, run_nil]
      exact .inr ⟨rfl, by simp⟩
  | case3 c r hc =>
    rw [List.cons_append, run_cons, run_cons, if_neg hc, if_neg hc]
    exact .inl rfl

lemma run_local (verbose : Bool) (p : Char → Bool) : Local 1 0 fun cs => some (run verbose p cs) :=
  .of_total (run_suffix p) (run_append p)

lemma braced?_local (verbose : Bool) : Local 0 1 (braced? verbose) := by
  have htail (l : List Char) : Local 0 1 fun cs : List Char => cs.tail?.map fun rest => (l, rest) :=
    .of_cons rfl fun _ => .pure l
  have hrun := Local.skip verbose (run_local verbose (· ≠ '\x7d')) (by omega)
  refine (hrun.bind htail (by omega)).congr fun cs => ?_
  rw [braced?, Option.bind_some]
  generalize run verbose _ (skip verbose cs) = x
  obtain ⟨l, _ | ⟨c, r⟩⟩ := x
  · rfl
  · rfl

lemma hexDigits?_local (verbose : Bool) (n : Nat) : Local 0 n (hexDigits? verbose n) := by
  induction n with
  | zero => exact .pure []
  | succ n ih =>
    have hdigit : Local 0 (n + 1) fun cs : List Char => cs.head?.bind fun c =>
        if (Text.hexDigit? c).isSome then (hexDigits? verbose n cs.tail).map fun x => (c :: x.1, x.2) else none :=
      .of_cons rfl fun c => .ite (ih.map _) .fail
    refine (hdigit.skip verbose (by omega)).congr fun cs => ?_
    rw [hexDigits?]
    cases skip verbose cs <;> rfl

end Blanks

namespace Flags

lemma read?_suffix {seen cs m : List Char} {x : List Char × Char} (h : read? seen cs = some (x, m)) :
    m <:+ cs ∧ m.length + 1 ≤ cs.length := by
  induction cs generalizing seen with
  | nil => cases h
  | cons c r ih =>
    rw [read?] at h
    split at h
    · split at h <;> cases h
      exact ⟨List.suffix_cons c m, Nat.le_refl _⟩
    · split at h
      · obtain ⟨hs, hl⟩ := ih h
        exact ⟨hs.trans (List.suffix_cons c r), by simp; omega⟩
      · cases h

lemma read?_append {seen cs m : List Char} {x : List Char × Char} :
    read? seen (cs ++ closing) = some (x, m ++ closing) ↔ read? seen cs = some (x, m) := by
  induction cs generalizing seen with
  | nil =>
    refine iff_of_false (fun h => ?_) nofun
    have hlength := (read?_suffix h).2
    simp at hlength
  | cons c r ih =>
    rw [List.cons_append, read?, read?]
    split
    · split <;> simp
    · split
      · exact ih
      · exact iff_of_false nofun nofun

lemma read?_local (seen : List Char) : Local 0 1 (read? seen) := ⟨read?_suffix, fun _ => read?_append⟩

end Flags

namespace Atom

variable {f : Flags}

lemma byNumber?_local (width : Nat) : Local 0 1 (byNumber? f (width + 1)) := by
  have hafter (digits : List Char) : Local 0 0 fun rest =>
      if !f.unicode && width + 1 = 2 && (Text.hex? digits).all (127 < ·) then none
      else do return (← ofHex? digits, rest) := .ite .fail (.lift 0 (ofHex? digits))
  have hdigits := ((hexDigits?_local f.verbose (width + 1)).bind hafter (by omega)).weaken (Nat.le_add_left 1 width)
  have hbraced := (braced?_local f.verbose).bind (fun digits => .lift 0 (ofHex? digits)) (by omega)
  have hbrace : '\x7b' ≠ ')' := by decide
  refine (Local.skip f.verbose (.branch hbrace hbraced hdigits (by omega)) (by omega)).congr fun cs => ?_
  rw [byNumber?]
  generalize skip f.verbose cs = x
  rcases x with _ | ⟨c, r⟩
  · rfl
  · by_cases hc : c = '\x7b'
    · subst hc
      rfl
    · simp [hc]

lemma named?_local : Local 0 1 (property?.named? f) := by
  refine .of_cons rfl fun c => ?_
  by_cases hbrace : c = '\x7b'
  · subst hbrace
    have hname := (braced?_local f.verbose).bind (fun name => .lift 0 (property?.ofName? name)) (Nat.zero_le _)
    exact hname.weaken (Nat.zero_le _)
  · by_cases hbackslash : c = '\\'
    · subst hbackslash
      exact .fail
    · simp only [property?.named?]
      exact .lift 0 (CharSet.named? [c])

lemma property?_local (negated : Bool) : Local 0 1 (property? f negated) := by
  have hset (s : CharSet) : Local 0 0 fun rest : List Char => if !f.unicode then none else
      let s := if f.caseInsensitive then s.folded else s
      some (set (s.negatedIf negated), rest) := .ite .fail (.pure _)
  exact (Local.skip f.verbose named?_local (by omega)).bind hset (by omega)

lemma namesBoundary_append (cs : List Char) : namesBoundary f (cs ++ closing) = namesBoundary f cs := by
  cases cs with
  | nil => rfl
  | cons c r =>
    by_cases hc : c = '\x7b'
    · subst hc
      change (skip f.verbose (r ++ closing)).head?.any isBoundaryName = (skip f.verbose r).head?.any isBoundaryName
      rcases skip_append f.verbose r with happend | ⟨hnil, hclosing⟩
      · rw [happend]
        cases skip f.verbose r with
        | nil => rfl
        | cons d r => rfl
      · rw [hnil, hclosing]
    · simp [namesBoundary, hc]

lemma boundaryName?_local : Local 0 1 (boundaryName? f) := by
  have hbrace : '\x7d' ≠ ')' := by decide
  have hends (name : List Char) := Local.branch hbrace (.lift_map 0 (namedBoundary? f name) id) .fail (Nat.le_refl 1)
  refine ((run_local f.verbose isBoundaryName).bind hends (by omega)).congr fun cs => ?_
  rw [boundaryName?]
  generalize run f.verbose isBoundaryName cs = x
  obtain ⟨name, _ | ⟨c, r⟩⟩ := x
  · rfl
  · by_cases hc : c = '\x7d'
    · subst hc
      rfl
    · simp [hc]

lemma boundary?_local : Local 0 0 (boundary? f) := by
  have hname : Local 0 1 fun cs : List Char => boundaryName? f (skip f.verbose cs.tail) :=
    .of_cons (by simp [boundaryName?, run_nil]) fun _ =>
      (boundaryName?_local.skip _ (by omega)).weaken (Nat.zero_le 1)
  exact .iteOn (fun cs => namesBoundary f cs) (fun cs => by rw [namesBoundary_append])
    (hname.weaken (Nat.zero_le 1)) (.pure _)

lemma escape?_local (f : Flags) : Local 0 1 (escape? f) := by
  refine .of_cons rfl fun c => ?_
  unfold escape?
  refine .ite (.pure _) ?_
  split
  · exact (byNumber?_local 1).weaken (Nat.zero_le 1)
  · exact (byNumber?_local 3).weaken (Nat.zero_le 1)
  · exact (byNumber?_local 7).weaken (Nat.zero_le 1)
  · exact (property?_local false).weaken (Nat.zero_le 1)
  · exact (property?_local true).weaken (Nat.zero_le 1)
  all_goals first
    | exact .lift_map 0 _ id
    | exact .pure _
    | exact boundary?_local
    | exact .fail

end Atom

end EntityAudit.Pattern
