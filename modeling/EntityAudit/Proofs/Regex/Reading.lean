import EntityAudit.Proofs.Regex.Bracket
import EntityAudit.Regex.Reader

namespace EntityAudit.Pattern.Reader

variable {s : Reader} {verbose : Bool}

section Repetition

lemma dropLazy_append (verbose : Bool) (cs : List Char) :
    dropLazy verbose (cs ++ closing) = dropLazy verbose cs ++ closing := by
  unfold dropLazy
  rcases skip_append verbose cs with happend | ⟨hnil, hclosing⟩
  · rw [happend]
    rcases skip verbose cs with _ | ⟨c, r⟩
    · rfl
    · by_cases hc : c = '?'
      · subst hc
        rfl
      · simp [hc]
  · rw [hnil, hclosing]

lemma dropLazy_suffix (verbose : Bool) (cs : List Char) : dropLazy verbose cs <:+ cs := by
  unfold dropLazy
  split
  · rename_i r hr
    exact (List.suffix_cons '?' r).trans (hr ▸ skip_suffix verbose cs)
  · exact List.suffix_refl _

lemma repeat_local (verbose : Bool) (s : Option Reader) :
    Local 0 0 fun r => s.map fun s => (s, dropLazy verbose r) := by
  cases s with
  | none => exact .fail
  | some s =>
    refine .of_append (fun h => ?_) fun cs => ?_
    · cases h
      exact dropLazy_suffix verbose _
    · simp [dropLazy_append]

lemma dropWhile_local (p : Char → Bool) : Local 1 0 fun cs => some ((), cs.dropWhile p) := by
  refine .of_total (fun cs => List.dropWhile_suffix p) fun cs => ?_
  rw [List.dropWhile_append]
  cases hrest : cs.dropWhile p with
  | nil => exact .inr ⟨rfl, (List.dropWhile_suffix p).length_le⟩
  | cons c r => exact .inl rfl

lemma number_local (verbose : Bool) : Local 1 0 fun cs => some (number verbose cs) := by
  have hdigits (digits : List Char) : Local 1 0 fun cs =>
      some (Text.natural? UInt32.size digits, skip verbose (cs.dropWhile Text.isBlank)) :=
    (dropWhile_local Text.isBlank).bind (fun _ => (Local.pure _).skip _ (by omega)) (by omega)
  exact (dropWhile_local Text.isBlank).bind (fun _ => (run_local verbose _).bind hdigits (by omega)) (by omega)

lemma most?_local (verbose : Bool) (least : Nat) : Local 0 1 (most? verbose least) := by
  have hgiven (n : Option Nat) : Local 0 1 fun cs => given? least (n, cs) := by
    refine .of_cons (by cases n <;> rfl) fun c => ?_
    by_cases hc : c = '\x7d'
    · subst hc
      cases n with
      | none => exact .fail
      | some n => exact .ite (.pure _) .fail
    · exact Local.fail.congr fun r => by cases n <;> simp [given?, hc]
  have hnumber := (number_local verbose).bind hgiven (by omega)
  have hclosed : '\x7d' ≠ ')' := by decide
  refine (Local.skip verbose (.branch hclosed (.pure none) hnumber (by omega)) (by omega)).congr fun cs => ?_
  rw [most?]
  generalize skip verbose cs = x
  rcases x with _ | ⟨c, r⟩
  · simp
  · by_cases hc : c = '\x7d'
    · subst hc
      rfl
    · simp [hc]

lemma counts?_local (verbose : Bool) : Local 0 1 (counts? verbose) := by
  have hleast (n : Option Nat) : Local 0 1 fun cs => least? verbose (n, cs) := by
    refine .of_cons (by cases n <;> rfl) fun c => ?_
    cases n with
    | none => exact .fail
    | some n =>
      by_cases hc : c = '\x7d'
      · subst hc
        exact .pure (n, some n)
      · by_cases hcomma : c = ','
        · subst hcomma
          exact ((most?_local verbose n).map fun most => (n, most)).weaken (Nat.zero_le 1)
        · exact Local.fail.congr fun r => by simp [least?, hc, hcomma]
  exact ((number_local verbose).skip verbose (by omega)).bind hleast (by omega)

end Repetition

section Groups

lemma name?_local (s : Reader) : Local 0 0 (name? s) := by
  refine .of_append (fun {cs a m} h => ?_) fun cs => ?_
  · unfold name? at h
    dsimp only at h
    split at h
    · cases h
    · rename_i d rest hrest
      split at h <;> cases h
      have hdrop : d :: m <:+ cs := hrest ▸ List.dropWhile_suffix _
      exact (List.suffix_cons d m).trans hdrop
  · have hangle : '>' ∉ closing := by decide
    unfold name?
    rcases cut_append hangle cs with ⟨hnone, hclosing⟩ | ⟨hcut, hname, hrest⟩
    · rw [hnone, hclosing]
      rfl
    · rw [hname, hrest]
      rcases hdrop : cs.dropWhile (· ≠ '>') with _ | ⟨c, r⟩
      · exact absurd hdrop hcut
      · dsimp only [List.cons_append]
        split <;> rfl

lemma named?_local (s : Reader) : Local 0 0 (named? s) :=
  (name?_local s).map fun name => ({ s with names := name :: s.names } : Reader).openGroup s.flags

lemma marked?_local (s : Reader) : Local 0 0 (marked? s) := by
  have hangle : '<' ≠ ')' := by decide
  have hletter : 'P' ≠ ')' := by decide
  have hflagged (x : List Char × Char) := Local.lift_map 0 (s.flagged? x.1 x.2) id
  have hflags := ((Flags.read?_local []).bind hflagged (by omega)).weaken (Nat.zero_le _)
  have hname := Local.branch hangle (named?_local s) .fail (Nat.zero_le _)
  have hname' := Local.branch hangle (named?_local s) hflags (Nat.zero_le _)
  refine (Local.branch hletter hname hname' (Nat.zero_le _)).congr fun cs => ?_
  rcases cs with _ | ⟨c, r⟩
  · rfl
  · by_cases hangle : c = '<'
    · subst hangle
      rfl
    · by_cases hletter : c = 'P'
      · subst hletter
        rcases r with _ | ⟨d, r⟩
        · rfl
        · by_cases hd : d = '<'
          · subst hd
            rfl
          · have hflags : Flags.read? [] ('P' :: d :: r) = none := by simp [Flags.read?]
            simp [marked?, hd, hflags]
      · simp [marked?, hangle, hletter]

lemma group?_local (s : Reader) : Local 0 0 (group? s) := by
  have hmark : '?' ≠ ')' := by decide
  have hmarked := (Local.branch hmark (marked?_local s) .fail (Nat.le_refl 1)).skip s.flags.verbose (Nat.le_refl 1)
  have happend (cs : List Char) : (skip s.flags.verbose (cs ++ closing)).head? = some '?' ↔
      (skip s.flags.verbose cs).head? = some '?' := by
    rcases skip_append s.flags.verbose cs with happend | ⟨hnil, hclosing⟩
    · rw [happend]
      cases skip s.flags.verbose cs with
      | nil => decide
      | cons c r => rfl
    · rw [hnil, hclosing]
  refine (Local.iteOn (fun cs => (skip s.flags.verbose cs).head? = some '?') happend
    (hmarked.weaken (Nat.zero_le 1)) (.pure (s.openGroup s.flags))).congr fun cs => ?_
  rw [group?]
  generalize skip s.flags.verbose cs = x
  rcases x with _ | ⟨c, r⟩
  · rfl
  · by_cases hc : c = '?'
    · subst hc
      rfl
    · simp [hc]

end Groups

lemma step?_local (s : Reader) (c : Char) : Local 0 0 (step? s c) := by
  unfold step?
  split
  · exact group?_local s
  · exact .lift_map 0 s.closeGroup? id
  · exact .pure _
  · exact repeat_local false _
  · exact repeat_local false _
  · exact repeat_local false _
  · exact ((counts?_local s.flags.verbose).bind (fun times => repeat_local s.flags.verbose
      (s.repeat? times.1 times.2)) (by omega)).weaken (Nat.zero_le _)
  · exact ((ClassPart.read?_local s.flags).map fun part => s.add (.ofSet part.set part.depth)).weaken (Nat.zero_le 1)
  · exact ((Atom.escape?_local s.flags).map fun a => s.add (.ofAtom s.flags a)).weaken (Nat.zero_le 1)
  · exact .lift_map 0 (Piece.dot? s.flags) s.add
  all_goals exact .pure _

def next? (s : Reader) (cs : List Char) : Option (Reader × List Char) :=
  match skip s.flags.verbose cs with
  | [] => none
  | c :: r => s.step? c r

lemma next?_local (s : Reader) : Local 0 1 (next? s) := by
  have hstep : Local 0 1 fun x : List Char => x.head?.bind fun c => s.step? c x.tail :=
    .of_cons rfl fun c => step?_local s c
  refine (hstep.skip s.flags.verbose (Nat.le_refl 1)).congr fun cs => ?_
  rw [next?]
  cases skip s.flags.verbose cs <;> rfl

lemma run?_eq (s : Reader) (cs : List Char) : run? s cs =
    if skip s.flags.verbose cs = [] then some s else (s.next? cs).bind fun x => run? x.1 x.2 := by
  rw [run?, next?]
  rcases skip s.flags.verbose cs with _ | ⟨c, r⟩
  · rfl
  · rw [if_neg (List.cons_ne_nil c r)]
    dsimp only
    rcases hstep : step? s c r with _ | ⟨next, rest⟩
    · rfl
    · have hlength : rest.length ≤ r.length := ((step?_local s c).suffix hstep).2
      dsimp only
      rw [dif_pos hlength]
      rfl

end EntityAudit.Pattern.Reader
