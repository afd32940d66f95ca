import EntityAudit.Proofs.Regex.Anchored
import EntityAudit.Rule.Format

namespace EntityAudit.Pattern

def anchorGroup : OpenGroup := ⟨{}, [], [.ofAtom {} (.lineStart {})]⟩

def anchor (r : Regex) : Regex := .seq (.seq (.look Atom.atStart) r) (.look Atom.atEnd)

namespace Reader

variable {t : Reader}

lemma run?_anchored (pattern : String) : run? {} (Parameters.anchored pattern).toList =
    run? (({} : Reader).within anchorGroup) (pattern.toList ++ closing) := by
  have htext : (Parameters.anchored pattern).toList = '^' :: '(' :: '?' :: ':' :: (pattern.toList ++ closing) := by
    simp [Parameters.anchored, closing]
  rw [htext]
  rw [run?_of_next? (show next? {} _ = some (_, _) from rfl)]
  rw [run?_of_next? (show next? (add {} (.ofAtom {} (.lineStart {}))) _ = some (_, _) from rfl)]
  rfl

lemma run?_anchored_of_close {pattern : String} {m r : List Char} (hleads : Leads {} pattern.toList t m)
    (haround : t.around = []) (hclose : skip t.flags.verbose (m ++ closing) = ')' :: r) :
    run? {} (Parameters.anchored pattern).toList = run? (t.outOf anchorGroup) r := by
  rw [run?_anchored, hleads.run?_within, run?_of_next? (next?_close haround hclose)]

lemma run?_outOf (t : Reader) : run? (t.outOf anchorGroup) ['$'] =
    some ((t.outOf anchorGroup).add (.ofAtom {} (.lineEnd {}))) := by
  have hnext : (t.outOf anchorGroup).next? ['$'] =
    some ((t.outOf anchorGroup).add (.ofAtom {} (.lineEnd {})), []) := rfl
  rw [run?_of_next? hnext, run?_eq, skip_nil, if_pos rfl]

lemma run?_of_leads {pattern : String} {m : List Char} (hleads : Leads {} pattern.toList t m)
    (hend : skip t.flags.verbose m = []) : run? {} pattern.toList = some t := by
  rw [hleads.run?_eq, run?_eq, if_pos hend]

lemma finish?_eq_some {r : Regex} : t.finish? = some r ↔ t.around = [] ∧ t.body.regex = r := by
  simp [finish?]

end Reader

open Reader

section Syntax

variable {pattern : String}

def EndsInComment (pattern : String) : Prop :=
  ∃ t m, Leads {} pattern.toList t m ∧ skip t.flags.verbose m = [] ∧ skip t.flags.verbose (m ++ closing) = []

def ClosesGroup (pattern : String) : Prop :=
  ∃ t m r, Leads {} pattern.toList t m ∧ t.around = [] ∧ skip t.flags.verbose m = ')' :: r ∧
    ((run? (t.outOf anchorGroup) (r ++ closing)).bind finish?).isSome

lemma skip_append_of_close {verbose : Bool} {m r : List Char} (h : skip verbose m = ')' :: r) :
    skip verbose (m ++ closing) = ')' :: (r ++ closing) := by
  rcases skip_append verbose m with happend | ⟨hnil, -⟩
  · rw [happend, h, List.cons_append]
  · rw [h] at hnil
    cases hnil

lemma regex?_eq (pattern : String) : regex? pattern = (run? {} pattern.toList).bind finish? := rfl

lemma regex?_anchored_of_comment (h : EndsInComment pattern) : regex? (Parameters.anchored pattern) = none := by
  obtain ⟨t, m, hleads, -, hcomment⟩ := h
  rw [regex?_eq, run?_anchored, hleads.run?_within, run?_eq, within_flags, if_pos hcomment]
  exact finish?_within t anchorGroup

lemma regex?_anchored_of_closesGroup (h : ClosesGroup pattern) :
    (regex? (Parameters.anchored pattern)).isSome ∧ regex? pattern = none := by
  obtain ⟨t, m, r, hleads, haround, hclose, hrest⟩ := h
  constructor
  · rwa [regex?_eq, run?_anchored_of_close hleads haround (skip_append_of_close hclose)]
  · have hnext : t.next? m = none := by
      rw [next?, hclose]
      exact step?_unmatched haround r
    rw [regex?_eq, hleads.run?_eq, run?_eq, if_neg (by simp [hclose]), hnext]
    rfl

theorem regex?_anchored (hcomment : ¬ EndsInComment pattern) (hgroup : ¬ ClosesGroup pattern) :
    regex? (Parameters.anchored pattern) = (regex? pattern).map anchor := by
  ext R
  constructor
  · intro hR
    rw [regex?_eq, run?_anchored, run?_within] at hR
    obtain ⟨t, m, r, hleads, haround, hclose, hr⟩ := hR
    rcases skip_append t.flags.verbose m with happend | ⟨-, hnil⟩
    · rw [hclose] at happend
      rcases hend : skip t.flags.verbose m with _ | ⟨c, r'⟩ <;> rw [hend] at happend
      · obtain rfl : r = ['$'] := (List.cons.inj happend).2
        rw [run?_outOf] at hr
        cases hr
        rw [regex?_eq, run?_of_leads hleads hend, Option.bind_some, finish?_eq_some.mpr ⟨haround, rfl⟩]
        rfl
      · obtain ⟨rfl, rfl⟩ := List.cons.inj happend
        exact absurd ⟨t, m, r', hleads, haround, hend, Option.isSome_iff_exists.mpr ⟨R, hr⟩⟩ hgroup
    · rw [hclose] at hnil
      cases hnil
  · intro hR
    obtain ⟨r, hr, rfl⟩ := Option.map_eq_some_iff.mp hR
    obtain ⟨t, ht, hfinish⟩ := Option.bind_eq_some_iff.mp hr
    obtain ⟨m, hleads, hend⟩ := run?_leads ht
    obtain ⟨haround, rfl⟩ := finish?_eq_some.mp hfinish
    have hclose : skip t.flags.verbose (m ++ closing) = closing := by
      rcases skip_append t.flags.verbose m with happend | ⟨-, hopen⟩
      · rw [happend, hend, List.nil_append]
      · exact absurd ⟨t, m, hleads, hend, hopen⟩ hcomment
    rw [regex?_eq, run?_anchored_of_close hleads haround hclose, run?_outOf]
    rfl

end Syntax

/-- What makes a pattern mean something else in the group that anchors it, where `fits` tells the patterns that keep
the limits. -/
inductive Clashes (fits : String → Bool) (pattern : String) : Prop
  | comment (hvalid : (regex? pattern).isSome) (hfits : fits pattern) (h : EndsInComment pattern)
  | parenthesis (hfits : fits (Parameters.anchored pattern)) (h : ClosesGroup pattern)
  | limit (hvalid : (regex? pattern).isSome) (hclosed : ¬ EndsInComment pattern)
      (h : fits pattern ≠ fits (Parameters.anchored pattern))

end EntityAudit.Pattern

namespace EntityAudit.Engine

open Pattern

/-- Compiles what the syntax allows, up to some limits, and finds what the syntax says. -/
structure Documented (E : Engine) (fits : String → Bool) : Prop where
  compiles : ∀ pattern, (E.compile? pattern).isSome ↔ fits pattern ∧ (regex? pattern).isSome
  finds : ∀ pattern p r, E.compile? pattern = some p → regex? pattern = some r →
    ∀ text, E.isMatch p text = r.isMatch text

lemma usual_documented : usual.Documented Pattern.fits := by
  have hread (pattern : String) : read? pattern = if Pattern.fits pattern then regex? pattern else none := by
    unfold read? regex? Pattern.fits
    cases Reader.run? {} pattern.toList with
    | none => rfl
    | some t => rfl
  refine ⟨fun pattern => ?_, fun pattern (p : Regex) r hp hr text => ?_⟩
  · change (read? pattern).isSome ↔ _
    rw [hread]
    split <;> simp_all
  · obtain ⟨-, hp⟩ := Option.ite_none_right_eq_some.mp ((hread pattern).symm.trans hp)
    rw [hr] at hp
    cases hp
    rfl

variable {E : Engine} {fits : String → Bool} {pattern : String}

namespace Documented

lemma exists_regex? (hE : E.Documented fits) {p : E.Program} (hp : E.compile? pattern = some p) :
    ∃ r, regex? pattern = some r :=
  Option.isSome_iff_exists.mp ((hE.compiles pattern).mp (by rw [hp]; rfl)).2

theorem compiles_anchored_iff (hE : E.Documented fits) (h : ¬ Clashes fits pattern) :
    (E.compile? (Parameters.anchored pattern)).isSome ↔ (E.compile? pattern).isSome := by
  rw [hE.compiles, hE.compiles]
  by_cases hcomment : EndsInComment pattern
  · rw [regex?_anchored_of_comment hcomment]
    exact iff_of_false (by simp) fun ⟨hfits, hvalid⟩ => h (.comment hvalid hfits hcomment)
  by_cases hgroup : ClosesGroup pattern
  · rw [(regex?_anchored_of_closesGroup hgroup).2]
    exact iff_of_false (fun ⟨hfits, _⟩ => h (.parenthesis hfits hgroup)) (by simp)
  rw [regex?_anchored hcomment hgroup, Option.isSome_map]
  refine and_congr_left fun hvalid => ?_
  rw [show fits (Parameters.anchored pattern) = fits pattern from
    by_contra fun hne => h (.limit hvalid hcomment (Ne.symm hne))]

theorem compiles_anchored_of_clashes (hE : E.Documented fits) (h : Clashes fits pattern) :
    (E.compile? (Parameters.anchored pattern)).isSome ↔ E.compile? pattern = none := by
  rw [← Option.not_isSome_iff_eq_none, hE.compiles, hE.compiles]
  cases h with
  | comment hvalid hfits hcomment => simp [regex?_anchored_of_comment hcomment, hvalid, hfits]
  | parenthesis hfits hgroup =>
    obtain ⟨hsome, hnone⟩ := regex?_anchored_of_closesGroup hgroup
    simp [hsome, hnone, hfits]
  | limit hvalid hcomment hne =>
    have hgroup : ¬ ClosesGroup pattern := fun hgroup => by
      simp [(regex?_anchored_of_closesGroup hgroup).2] at hvalid
    rw [regex?_anchored hcomment hgroup, Option.isSome_map]
    cases hfits : fits pattern <;> cases hwithin : fits (Parameters.anchored pattern) <;> simp_all

theorem isMatch_anchored (hE : E.Documented fits) (h : ¬ Clashes fits pattern) {p : E.Program} {r : Regex}
    (hp : E.compile? (Parameters.anchored pattern) = some p) (hr : regex? pattern = some r) (text : String) :
    E.isMatch p text = (anchor r).isMatch text := by
  have hsome : (E.compile? (Parameters.anchored pattern)).isSome := by rw [hp]; rfl
  have hboth := (hE.compiles pattern).mp ((hE.compiles_anchored_iff h).mp hsome)
  have hcomment : ¬ EndsInComment pattern := fun hcomment => h (.comment hboth.2 hboth.1 hcomment)
  have hgroup : ¬ ClosesGroup pattern := fun hgroup => by
    simp [(regex?_anchored_of_closesGroup hgroup).2] at hr
  refine hE.finds _ _ _ hp ?_ text
  rw [regex?_anchored hcomment hgroup, hr]
  rfl

end Documented

end EntityAudit.Engine
