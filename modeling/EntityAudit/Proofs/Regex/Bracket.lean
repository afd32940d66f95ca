import EntityAudit.Proofs.Regex.Local
import EntityAudit.Regex.Bracket

namespace EntityAudit.Pattern.ClassPart

variable {f : Flags} {verbose : Bool}

section Start

lemma negation_suffix (cs : List Char) : (negation verbose cs).2 <:+ cs := by
  unfold negation
  split
  · rename_i r hr
    have hcaret : '^' :: r <:+ cs := hr ▸ skip_suffix verbose cs
    exact ((skip_suffix verbose r).trans (List.suffix_cons _ r)).trans hcaret
  · exact skip_suffix verbose cs

lemma negation_local (verbose : Bool) : Local 1 0 fun cs => some (negation verbose cs) := by
  refine .of_total negation_suffix fun cs => ?_
  unfold negation
  rcases skip_append verbose cs with happend | ⟨hnil, hclosing⟩
  · rw [happend]
    generalize skip verbose cs = x
    rcases x with _ | ⟨c, r⟩
    · exact .inl rfl
    · by_cases hc : c = '^'
      · subst hc
        rcases skip_append verbose r with happend | ⟨hnil, hclosing⟩
        · exact .inl (Prod.ext rfl happend)
        · exact .inr ⟨hnil, by simp [hclosing]⟩
      · left
        simp [hc]
  · rw [hnil, hclosing]
    exact .inr ⟨rfl, Nat.zero_le 2⟩

lemma literals_local (verbose : Bool) : Local 1 0 fun cs => some (literals verbose cs) := by
  have hbracket (l : List Char) : Local 1 0 fun cs => some (literalBracket verbose (l, cs)) := by
    cases l with
    | cons c l => exact .pure (c :: l)
    | nil =>
      refine .of_total (fun cs => ?_) fun cs => ?_
      · unfold literalBracket
        split
        · rename_i h
          cases h
          exact (skip_suffix verbose _).trans (List.suffix_cons _ _)
        · exact List.suffix_refl _
      · rcases cs with _ | ⟨c, r⟩
        · exact .inl rfl
        · by_cases hc : c = ']'
          · subst hc
            rcases skip_append verbose r with happend | ⟨hnil, hclosing⟩
            · exact .inl (Prod.ext rfl happend)
            · exact .inr ⟨hnil, by simp [literalBracket, hclosing]⟩
          · left
            simp [literalBracket, hc]
  exact (run_local verbose (· = '-')).bind hbracket (by omega)

lemma openBracket?_local (f : Flags) : Local 1 0 (openBracket? f) := by
  have hopen (negated : Bool) (chars : List Char) := Local.unlessEmpty (@Local.pure _ 1
    ({ negated, parts := chars.map fun c => { set := CharSet.single c } } : OpenClass))
  exact (negation_local _).bind (fun negated => (literals_local _).bind (hopen negated) (by omega)) (by omega)

end Start

section Parts

lemma className?_append (cs : List Char) :
    className? (cs ++ closing) = (className? cs).map fun x => (x.1, x.2 ++ closing) := by
  have hcolon : ':' ∉ closing := by decide
  unfold className?
  rcases cut_append hcolon cs with ⟨hnone, hclosing⟩ | ⟨-, hname, hrest⟩
  · rw [hnone, hclosing]
    rfl
  · rw [hname, hrest]
    -- the colon and the bracket are not part of the closing
    rcases cs.dropWhile (· ≠ ':') with _ | ⟨c, _ | ⟨d, r⟩⟩
    · rfl
    · simp [closing]
    · by_cases hends : c = ':' ∧ d = ']'
      · obtain ⟨rfl, rfl⟩ := hends
        simp [Function.comp_def]
      · simp_all

lemma className?_suffix {cs rest : List Char} {s : CharSet} (h : className? cs = some (s, rest)) : rest <:+ cs := by
  unfold className? at h
  split at h
  · rename_i hname
    obtain ⟨e, -, rfl, rfl⟩ := by simpa using h
    have hdrop : ':' :: ']' :: rest <:+ cs := hname ▸ List.dropWhile_suffix _
    exact ((List.suffix_cons _ _).trans (List.suffix_cons _ _)).trans hdrop
  · cases h

lemma named?_append (cs : List Char) :
    named? (cs ++ closing) = (named? cs).map fun x => (x.1, x.2.1, x.2.2 ++ closing) := by
  rcases cs with _ | ⟨c, r⟩
  · rfl
  · by_cases hc : c = ':'
    · subst hc
      rcases r with _ | ⟨d, r⟩
      · rfl
      · by_cases hd : d = '^'
        · subst hd
          simp [named?, className?_append, Function.comp_def]
        · have happend := className?_append (d :: r)
          rw [List.cons_append] at happend
          simp [named?, happend, hd, Function.comp_def]
    · simp [named?, hc]

lemma named?_suffix {cs rest : List Char} {s : CharSet} {negated : Bool} (h : named? cs = some (s, negated, rest)) :
    rest <:+ cs := by
  unfold named? at h
  split at h
  · obtain ⟨⟨t, m⟩, hname, hm⟩ := Option.map_eq_some_iff.mp h
    cases hm
    exact ((className?_suffix hname).trans (List.suffix_cons _ _)).trans (List.suffix_cons _ _)
  · obtain ⟨⟨t, m⟩, hname, hm⟩ := Option.map_eq_some_iff.mp h
    cases hm
    exact (className?_suffix hname).trans (List.suffix_cons _ _)
  · cases h

lemma atom?_local (f : Flags) : Local 0 1 (atom? f) := by
  refine .of_cons rfl fun c => ?_
  by_cases hc : c = '\\'
  · subst hc
    exact (Atom.escape?_local f).weaken (Nat.zero_le 1)
  · exact (Local.pure (Atom.char c)).congr fun r => by simp [atom?]

lemma isRange_append (cs : List Char) : isRange f (cs ++ closing) = isRange f cs := by
  cases cs with
  | nil => rfl
  | cons c r =>
    by_cases hc : c = '-'
    · subst hc
      simp only [List.cons_append, isRange]
      rcases skip_append f.verbose r with happend | ⟨hnil, hclosing⟩
      · rw [happend]
        cases skip f.verbose r with
        | nil => rfl
        | cons d r => rfl
      · rw [hnil, hclosing]
    · simp [isRange, hc]

lemma range?_local (f : Flags) : Local 1 1 (range? f) := by
  have hrange (first : Atom) : Local 1 0 fun next : List Char =>
      (atom? f (skip f.verbose next.tail)).bind fun x => do return (← between? f first x.1, x.2) := by
    have hsecond := (atom?_local f).bind (fun second => .lift 1 (between? f first second)) (Nat.zero_le 1)
    exact .weaken (.of_cons (by simp [atom?]) fun _ => hsecond.skip _ (by omega)) (Nat.zero_le _)
  have hnext (first : Atom) := (Local.iteOn (fun cs => isRange f cs) (fun cs => by rw [isRange_append]) (hrange first)
    (.lift 1 (ofAtom? f first))).unlessEmpty
  exact (atom?_local f).bind (fun first => (hnext first).skip _ (by omega)) (by omega)

lemma opening_local (f : Flags) (o : OpenClass) (around : List OpenClass) :
    Local 1 0 fun r => step? f o around ('[' :: r) := by
  have hopen := (openBracket?_local f).map fun inner => (inner, o :: around)
  constructor
  · intro cs a m h
    rw [step?] at h
    split at h
    · rename_i hname
      split at h
      · cases h
      · cases h
        exact ⟨named?_suffix hname, (named?_suffix hname).length_le⟩
    · exact hopen.suffix h
  · intro cs a m hm
    rw [step?, step?, named?_append]
    cases named? cs with
    | none => exact hopen.append_iff hm
    | some name => simp

lemma step?_local (f : Flags) (o : OpenClass) (around : List OpenClass) : Local 1 1 (step? f o around) := by
  refine .of_cons rfl fun c => ?_
  by_cases hopen : c = '['
  · subst hopen
    exact opening_local f o around
  by_cases hclose : c = ']'
  · subst hclose
    cases around with
    | nil => exact .fail
    | cons outer around => exact .lift_map 1 (o.close? f) fun part => (outer.add part, around)
  have hrange := ((range?_local f).cons c).map fun part => (o.add part, around)
  -- a character that is doubled is an operation
  have hoperation (hc : c ≠ ')') (operation : SetOperation)
      (hstep : ∀ d r, step? f o around (c :: d :: r) = if d = c then some ((o.operate f operation, around), r)
        else (range? f (c :: d :: r)).map fun x => ((o.add x.1, around), x.2)) :
      Local 1 0 fun r => step? f o around (c :: r) := by
    refine (Local.branch hc (.pure (o.operate f operation, around)) hrange (by omega)).congr fun r => ?_
    rcases r with _ | ⟨d, r⟩
    · simp [step?, hopen, hclose]
    · simpa using hstep d r
  by_cases hand : c = '&'
  · subst hand
    exact hoperation (by decide) .intersection fun d r => by by_cases hd : d = '&' <;> simp [step?, hd]
  by_cases hminus : c = '-'
  · subst hminus
    exact hoperation (by decide) .difference fun d r => by by_cases hd : d = '-' <;> simp [step?, hd]
  by_cases htilde : c = '~'
  · subst htilde
    exact hoperation (by decide) .symmetricDifference fun d r => by by_cases hd : d = '~' <;> simp [step?, hd]
  exact hrange.congr fun r => by simp [step?, hopen, hclose, hand, hminus, htilde]

end Parts

lemma rest?_eq (o : OpenClass) (around : List OpenClass) (cs : List Char) : rest? f o around cs =
    match skip f.verbose cs with
    | [] => none
    | c :: r => if c = ']' && around.isEmpty then (o.close? f).map fun part => (part, r)
      else (step? f o around (c :: r)).bind fun x => rest? f x.1.1 x.1.2 x.2 := by
  rw [rest?]
  have hskip := length_skip_le f.verbose cs
  generalize skip f.verbose cs = x at hskip
  rcases x with _ | ⟨c, r⟩
  · rfl
  · dsimp only
    split
    · rfl
    · cases hstep : step? f o around (c :: r) with
      | none => rfl
      | some x =>
        obtain ⟨⟨next, outer⟩, rest⟩ := x
        have hlength := ((step?_local f o around).suffix hstep).2
        dsimp only
        rw [if_pos (by omega)]
        rfl

lemma rest?_suffix (o : OpenClass) (around : List OpenClass) {cs m : List Char} {part : ClassPart}
    (h : rest? f o around cs = some (part, m)) : m <:+ cs ∧ m.length + 1 ≤ cs.length := by
  induction hn : cs.length using Nat.strong_induction_on generalizing o around cs with
  | _ n ih =>
    subst hn
    rw [rest?_eq] at h
    have hskip := skip_suffix f.verbose cs
    rcases hx : skip f.verbose cs with _ | ⟨c, r⟩ <;> rw [hx] at h hskip
    · cases h
    · have hlength := hskip.length_le
      rw [List.length_cons] at hlength
      dsimp only at h
      split at h
      · obtain ⟨p, -, hm⟩ := Option.map_eq_some_iff.mp h
        cases hm
        exact ⟨(List.suffix_cons c _).trans hskip, hlength⟩
      · obtain ⟨⟨⟨next, outer⟩, rest⟩, hstep, hrest⟩ := Option.bind_eq_some_iff.mp h
        obtain ⟨hs, hl⟩ := (step?_local f o around).suffix hstep
        rw [List.length_cons] at hl
        obtain ⟨hms, hml⟩ := ih rest.length (by omega) next outer hrest rfl
        exact ⟨(hms.trans hs).trans hskip, by omega⟩

lemma rest?_append (o : OpenClass) (around : List OpenClass) {cs m : List Char} {part : ClassPart} :
    rest? f o around (cs ++ closing) = some (part, m ++ closing) ↔ rest? f o around cs = some (part, m) := by
  induction hn : cs.length using Nat.strong_induction_on generalizing o around cs with
  | _ n ih =>
    subst hn
    rw [rest?_eq, rest?_eq]
    have hbind (x : List Char) (hx : x.length ≤ cs.length) :
        ((step? f o around (x ++ closing)).bind fun y => rest? f y.1.1 y.1.2 y.2) = some (part, m ++ closing) ↔
          ((step? f o around x).bind fun y => rest? f y.1.1 y.1.2 y.2) = some (part, m) :=
      (step?_local f o around).bind_append_iff (rest?_suffix _ _)
        (fun next y hy => ih y.length (by omega) next.1 next.2 rfl) (by omega)
    have hskip := length_skip_le f.verbose cs
    rcases skip_append f.verbose cs with happend | ⟨hnil, hclosing⟩
    · rw [happend]
      rcases hx : skip f.verbose cs with _ | ⟨c, r⟩ <;> rw [hx] at hskip
      · exact hbind [] (Nat.zero_le _)
      · dsimp only [List.cons_append]
        split
        · simp
        · exact hbind (c :: r) hskip
    · rw [hnil, hclosing]
      exact iff_of_false nofun nofun

lemma rest?_local (f : Flags) (o : OpenClass) (around : List OpenClass) : Local 0 1 (rest? f o around) :=
  ⟨rest?_suffix o around, fun _ => rest?_append o around⟩

lemma read?_local (f : Flags) : Local 0 1 (read? f) :=
  (openBracket?_local f).bind (fun o => rest?_local f o []) (by omega)

end EntityAudit.Pattern.ClassPart
