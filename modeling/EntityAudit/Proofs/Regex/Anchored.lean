import EntityAudit.Proofs.Regex.Reading

/-!
Reading a pattern within the group that anchors it. The group is meant to be closed by the closing behind the pattern;
a parenthesis of the pattern that closes nothing in it closes the group instead.
-/

namespace EntityAudit.Pattern.Reader

def within (g : OpenGroup) (s : Reader) : Reader := { s with around := s.around ++ [g] }

def outOf (g : OpenGroup) (s : Reader) : Reader :=
  { s with around := [], flags := g.flags, branches := g.branches, pieces := s.body.group :: g.pieces }

inductive Leads : Reader → List Char → Reader → List Char → Prop
  | refl (s : Reader) (cs : List Char) : Leads s cs s cs
  | step {s next t : Reader} {cs r m : List Char} (hnext : s.next? cs = some (next, r)) (hr : Leads next r t m) :
      Leads s cs t m

variable {s next t : Reader} {g : OpenGroup} {c : Char} {cs r m : List Char}

section Within

@[simp] lemma within_flags : (s.within g).flags = s.flags := rfl

lemma closeGroup?_within (h : s.around ≠ []) : (s.within g).closeGroup? = s.closeGroup?.map (within g) := by
  obtain ⟨_ | ⟨_, _⟩, _, _, _, _⟩ := s
  · exact absurd rfl h
  · rfl

lemma closeGroup?_outermost (h : s.around = []) : (s.within g).closeGroup? = some (s.outOf g) := by
  obtain ⟨_, _, _, _, _⟩ := s
  subst h
  rfl

lemma repeat?_within (least : Nat) (most : Option Nat) :
    (s.within g).repeat? least most = (s.repeat? least most).map (within g) := by
  obtain ⟨_, _, _, _ | ⟨p, ps⟩, _⟩ := s
  · rfl
  · simp only [repeat?, within]
    split <;> rfl

lemma named?_within (cs : List Char) : (s.within g).named? cs = (s.named? cs).map fun x => (x.1.within g, x.2) := by
  change (s.name? cs).map _ = ((s.name? cs).map _).map _
  rw [Option.map_map]
  rfl

lemma flagged?_within (letters : List Char) (last : Char) :
    (s.within g).flagged? letters last = (s.flagged? letters last).map (within g) := by
  unfold flagged?
  dsimp only
  split
  · rfl
  · split <;> rfl

lemma marked?_within (cs : List Char) : (s.within g).marked? cs = (s.marked? cs).map fun x => (x.1.within g, x.2) := by
  unfold marked?
  split
  · exact named?_within _
  · exact named?_within _
  · rw [Option.map_bind]
    congr 1
    funext ⟨⟨letters, last⟩, rest⟩
    simp [flagged?_within, Function.comp_def]

lemma group?_within (cs : List Char) : (s.within g).group? cs = (s.group? cs).map fun x => (x.1.within g, x.2) := by
  unfold group?
  rw [within_flags]
  split
  · exact marked?_within _
  · rfl

lemma step?_within (h : c ≠ ')' ∨ s.around ≠ []) (r : List Char) :
    (s.within g).step? c r = (s.step? c r).map fun x => (x.1.within g, x.2) := by
  unfold step?
  split
  · exact group?_within r
  · rw [closeGroup?_within (h.resolve_left (· rfl)), Option.map_map, Option.map_map]
    rfl
  · rfl
  · simp [repeat?_within, Function.comp_def]
  · simp [repeat?_within, Function.comp_def]
  · simp [repeat?_within, Function.comp_def]
  · rw [Option.map_bind]
    congr 1
    funext ⟨⟨least, most⟩, rest⟩
    simp [repeat?_within, Function.comp_def]
  · rw [Option.map_map]
    rfl
  · rw [Option.map_map]
    rfl
  · rw [Option.map_map]
    rfl
  all_goals rfl

lemma step?_close (h : s.around = []) (r : List Char) : (s.within g).step? ')' r = some (s.outOf g, r) := by
  simp [step?, closeGroup?_outermost h]

lemma step?_unmatched (h : s.around = []) (r : List Char) : s.step? ')' r = none := by
  simp [step?, closeGroup?, h]

lemma next?_close (h : s.around = []) (hskip : skip s.flags.verbose cs = ')' :: r) :
    (s.within g).next? cs = some (s.outOf g, r) := by
  rw [next?, within_flags, hskip]
  exact step?_close h r

lemma next?_within (h : s.next? cs = some (next, r)) : (s.within g).next? cs = some (next.within g, r) := by
  unfold next? at h ⊢
  rw [within_flags]
  generalize skip s.flags.verbose cs = x at h ⊢
  rcases x with _ | ⟨c, rest⟩
  · cases h
  · dsimp only at h ⊢
    rw [step?_within, h, Option.map_some]
    by_contra hunmatched
    obtain ⟨rfl, haround⟩ := by simpa [not_or] using hunmatched
    rw [step?_unmatched haround] at h
    cases h

lemma of_next?_within (h : (s.within g).next? cs = some (t, r)) :
    (∃ next, s.next? cs = some (next, r) ∧ t = next.within g) ∨
      s.around = [] ∧ skip s.flags.verbose cs = ')' :: r ∧ t = s.outOf g := by
  unfold next? at h ⊢
  rw [within_flags] at h
  generalize skip s.flags.verbose cs = x at h ⊢
  rcases x with _ | ⟨c, rest⟩
  · cases h
  · dsimp only at h ⊢
    by_cases hclose : c = ')' ∧ s.around = []
    · obtain ⟨rfl, haround⟩ := hclose
      rw [step?_close haround] at h
      cases h
      exact .inr ⟨haround, rfl, rfl⟩
    · rw [step?_within (by tauto)] at h
      obtain ⟨⟨next, m⟩, hstep, hm⟩ := Option.map_eq_some_iff.mp h
      cases hm
      exact .inl ⟨next, hstep, rfl⟩

end Within

section Run

lemma finish?_within (s : Reader) (g : OpenGroup) : (s.within g).finish? = none := by
  simp [finish?, within]

lemma unfinished (s : Reader) (g : OpenGroup) (h : cs <:+ ['$']) : (run? (s.within g) cs).bind finish? = none := by
  have hnil (s : Reader) : (run? (s.within g) []).bind finish? = none := by
    rw [run?_eq, skip_nil]
    exact finish?_within s g
  rcases List.suffix_cons_iff.mp h with rfl | h
  · have hskip : skip s.flags.verbose ['$'] = ['$'] := by cases s.flags.verbose <;> rfl
    rw [run?_eq, next?, within_flags, hskip]
    exact hnil (s.add _)
  · rw [List.suffix_nil.mp h]
    exact hnil s

lemma run?_of_next? (h : s.next? cs = some (next, r)) : run? s cs = run? next r := by
  rw [run?_eq, if_neg, h]
  · rfl
  · intro hskip
    rw [next?, hskip] at h
    cases h

lemma Leads.run?_eq (h : Leads s cs t m) : run? s cs = run? t m := by
  induction h with
  | refl => rfl
  | step hnext _ ih => rw [run?_of_next? hnext, ih]

lemma run?_leads (h : run? s cs = some t) : ∃ m, Leads s cs t m ∧ skip t.flags.verbose m = [] := by
  induction hn : cs.length using Nat.strong_induction_on generalizing s cs with
  | _ n ih =>
    subst hn
    rw [Reader.run?_eq] at h
    split at h
    · rename_i hskip
      cases h
      exact ⟨cs, .refl t cs, hskip⟩
    · obtain ⟨⟨next, r⟩, hnext, hr⟩ := Option.bind_eq_some_iff.mp h
      obtain ⟨m, hleads, hm⟩ := ih r.length ((next?_local s).suffix hnext).2 hr rfl
      exact ⟨m, .step hnext hleads, hm⟩

lemma Leads.run?_within (h : Leads s cs t m) :
    run? (s.within g) (cs ++ closing) = run? (t.within g) (m ++ closing) := by
  induction h with
  | refl => rfl
  | step hnext _ ih =>
    rw [run?_of_next? (next?_within (((next?_local _).append_iff (Nat.zero_le _)).mpr hnext)), ih]

theorem run?_within {R : Regex} : (run? (s.within g) (cs ++ closing)).bind finish? = some R ↔
    ∃ t m r, Leads s cs t m ∧ t.around = [] ∧ skip t.flags.verbose (m ++ closing) = ')' :: r ∧
      (run? (t.outOf g) r).bind finish? = some R := by
  constructor
  · intro h
    induction hn : cs.length using Nat.strong_induction_on generalizing s cs with
    | _ n ih =>
      subst hn
      rcases hwithin : (s.within g).next? (cs ++ closing) with _ | ⟨t, r⟩
      · -- a comment goes on to the end, or there is no step
        rw [run?_eq, hwithin] at h
        split at h
        · rw [Option.bind_some, finish?_within] at h
          cases h
        · cases h
      · rw [run?_of_next? hwithin] at h
        rcases of_next?_within hwithin with ⟨next, hnext, rfl⟩ | ⟨haround, hskip, rfl⟩
        · rcases (next?_local s).leaves hnext with ⟨m, rfl⟩ | hr
          · have hm := ((next?_local s).append_iff (Nat.zero_le m.length)).mp hnext
            obtain ⟨t, n, r, hleads, ht⟩ := ih m.length ((next?_local s).suffix hm).2 h rfl
            exact ⟨t, n, r, .step hm hleads, ht⟩
          · rw [unfinished next g hr] at h
            cases h
        · exact ⟨s, cs, r, .refl s cs, haround, hskip, h⟩
  · rintro ⟨t, m, r, hleads, haround, hskip, hr⟩
    rw [hleads.run?_within, run?_of_next? (next?_close haround hskip), hr]

end Run

end EntityAudit.Pattern.Reader
