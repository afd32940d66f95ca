import EntityAudit.Proofs.Ordered.Lookup
import EntityAudit.Proofs.Outcome
import EntityAudit.Proofs.Regex.Clash
import EntityAudit.Proofs.Regex.Matching
import EntityAudit.Rule.Format

namespace EntityAudit

open Pattern Pattern.Reader

namespace Compiled

variable {E : Engine}

def Sound (compiled : Compiled E) : Prop :=
  ∀ pattern p, compiled.get? pattern = some p → E.compile? (Parameters.anchored pattern) = some p

def after (patterns : List String) : Compiled E := patterns.foldl keep SortedMap.empty

lemma Sound.keep {compiled : Compiled E} (h : compiled.Sound) (pattern : String) : (compiled.keep pattern).Sound := by
  unfold Compiled.keep
  split
  · exact h
  · split
    · rename_i p hp
      intro other p' hother
      rw [SortedMap.get?_insert] at hother
      split at hother
      · rename_i hsame
        cases hother
        exact hsame ▸ hp
      · exact h other p' hother
    · exact h

lemma after_sound (patterns : List String) : (after patterns : Compiled E).Sound := by
  have hfoldl (compiled : Compiled E) (h : compiled.Sound) : (patterns.foldl Compiled.keep compiled).Sound := by
    induction patterns generalizing compiled with
    | nil => exact h
    | cons pattern patterns ih => exact ih _ (h.keep pattern)
  exact hfoldl SortedMap.empty nofun

lemma Sound.regex_eq {compiled : Compiled E} (h : compiled.Sound) (config : Config) (pattern : String) :
    compiled.regex config pattern = Parameters.regex E config pattern := by
  unfold regex
  split
  · rename_i p hp
    rw [Parameters.regex, h pattern p hp]
  · rfl

end Compiled

def Context.text? (x : Context) : Option String :=
  match x.snak.value? with
  | some (.string s) => some s
  | some (.monolingual t) => some t.text
  | _ => none

namespace Rule

variable {E : Engine} {fits : String → Bool} {s : Services} {c : Constraint} {pattern : String}

abbrev freshFormat (E : Engine) : Rule := formatWith E SortedMap.empty

lemma formatWith_of_sound {compiled : Compiled E} (h : compiled.Sound) : formatWith E compiled = freshFormat E := by
  have hregex (config : Config) (pattern : String) : compiled.regex config pattern =
      Compiled.regex SortedMap.empty config pattern := h.regex_eq config pattern
  simp only [formatWith, hregex]

/-- A rule that means the full match of a pattern: it reports the pattern exactly if the engine does not compile it by
itself, and otherwise is complied with exactly by the texts that the pattern matches as a whole. -/
structure MeansWhole (rule : Rule) (E : Engine) (s : Services) (c : Constraint) (pattern : String) : Prop where
  reported : (∃ e ∈ rule.problems s.config c, e.key = "parameter-regex") ↔ E.compile? pattern = none
  refused : ∀ x, (∃ e, rule.verdict s x c = .error e ∧ e.key = "parameter-regex") ↔ E.compile? pattern = none
  decided : ∀ p, E.compile? pattern = some p → ∃ r, Pattern.regex? pattern = some r ∧ ∀ x, ∃ v,
    rule.verdict s x c = .ok v ∧ (v.status = .compliance ↔ ∃ text, x.text? = some text ∧ r.Spans text)

section Outcome

lemma format_problems (h : Parameters.format s.config c = .ok pattern) :
    (freshFormat E).problems s.config c = problem (Parameters.regex E s.config pattern) := by
  change problem (Parameters.format s.config c >>= fun pattern => Compiled.regex _ s.config pattern) = _
  rw [h]
  rfl

lemma format_verdict (h : Parameters.format s.config c = .ok pattern) (x : Context) :
    (freshFormat E).verdict s x c =
      (Parameters.regex E s.config pattern).map fun p => matching x (E.isMatch p) pattern := by
  change (Parameters.format s.config c >>= fun pattern =>
    Compiled.regex _ s.config pattern >>= fun p => .ok (matching x (E.isMatch p) pattern)) = _
  rw [h]
  change (Parameters.regex E s.config pattern >>= fun p => .ok (matching x (E.isMatch p) pattern)) = _
  cases Parameters.regex E s.config pattern <;> rfl

lemma matching_status (x : Context) (isMatch : String → Bool) (pattern : String) :
    (matching x isMatch pattern).status = .compliance ↔ ∃ text, x.text? = some text ∧ isMatch text := by
  have hof (text : String) : ((Verdict.of (isMatch text) (.formatMismatch text pattern)).withParameter "pattern"
      [pattern]).status = .compliance ↔ isMatch text := by
    cases hmatch : isMatch text
    · simp [Verdict.of, Verdict.violation, Verdict.withParameter]
    · simp [Verdict.of, Verdict.compliance, Verdict.withParameter]
  rcases hvalue : x.snak.value? with _ | v
  · have htext : x.text? = none := by rw [Context.text?, hvalue]
    rw [matching, Context.requireValue, hvalue, htext]
    simp [Verdict.settle, Verdict.violation, bind, Except.bind]
  · cases v with
    | string text =>
      have htext : x.text? = some text := by rw [Context.text?, hvalue]
      rw [matching, Context.requireValue, hvalue, htext]
      exact (hof text).trans (by simp)
    | monolingual t =>
      have htext : x.text? = some t.text := by rw [Context.text?, hvalue]
      rw [matching, Context.requireValue, hvalue, htext]
      exact (hof t.text).trans (by simp)
    | _ =>
      have htext : x.text? = none := by rw [Context.text?, hvalue]
      rw [matching, Context.requireValue, hvalue, htext]
      simp [Verdict.settle, Verdict.violation, Context.mismatch, bind, Except.bind, throw, throwThe, MonadExceptOf.throw]

end Outcome

lemma regex_of_invalid (config : Config) (h : E.compile? (Parameters.anchored pattern) = none) :
    Parameters.regex E config pattern = .error (.invalidPattern config.parameters.format pattern) := by
  rw [Parameters.regex, h]

lemma regex_of_valid (config : Config) {p : E.Program} (h : E.compile? (Parameters.anchored pattern) = some p) :
    Parameters.regex E config pattern = .ok p := by
  rw [Parameters.regex, h]

lemma regex_refused_iff (config : Config) :
    (∃ e, Parameters.regex E config pattern = .error e ∧ e.key = "parameter-regex") ↔
      E.compile? (Parameters.anchored pattern) = none := by
  cases hread : E.compile? (Parameters.anchored pattern) with
  | none =>
    rw [regex_of_invalid config hread]
    exact iff_of_true ⟨_, rfl, rfl⟩ rfl
  | some p =>
    rw [regex_of_valid config hread]
    exact iff_of_false nofun nofun

lemma format_reported (h : Parameters.format s.config c = .ok pattern) :
    (∃ e ∈ (freshFormat E).problems s.config c, e.key = "parameter-regex") ↔
      E.compile? (Parameters.anchored pattern) = none := by
  rw [format_problems h, ← regex_refused_iff s.config]
  cases Parameters.regex E s.config pattern <;> simp [problem]

lemma format_refused (h : Parameters.format s.config c = .ok pattern) (x : Context) :
    (∃ e, (freshFormat E).verdict s x c = .error e ∧ e.key = "parameter-regex") ↔
      E.compile? (Parameters.anchored pattern) = none := by
  rw [format_verdict h, ← regex_refused_iff s.config]
  cases Parameters.regex E s.config pattern <;> simp [Except.map]

lemma format_meansWhole (hE : E.Documented fits) (h : Parameters.format s.config c = .ok pattern)
    (hclash : ¬ Clashes fits pattern) : (freshFormat E).MeansWhole E s c pattern := by
  have hboth := hE.compiles_anchored_iff hclash
  have hnone : E.compile? (Parameters.anchored pattern) = none ↔ E.compile? pattern = none := by
    rw [← Option.not_isSome_iff_eq_none, hboth, Option.not_isSome_iff_eq_none]
  refine ⟨(format_reported h).trans hnone, fun x => (format_refused h x).trans hnone, fun p hp => ?_⟩
  obtain ⟨r, hr⟩ := hE.exists_regex? hp
  obtain ⟨q, hq⟩ := Option.isSome_iff_exists.mp (hboth.mpr (by rw [hp]; rfl))
  refine ⟨r, hr, fun x => ⟨matching x (E.isMatch q) pattern, ?_, (matching_status x _ pattern).trans ?_⟩⟩
  · rw [format_verdict h, regex_of_valid s.config hq]
    rfl
  · refine exists_congr fun text => and_congr_right fun _ => ?_
    rw [hE.isMatch_anchored hclash hq hr text]
    exact Regex.isMatch_anchored_iff

end Rule

namespace Sample

def formatted (pattern : String) : Constraint where
  id := "P214$1"
  property := ⟨214⟩
  type := ⟨21502404⟩
  parameters := .ofSnaks [.value ⟨1793⟩ (.string pattern)]

def choice : String := "a|b"

def choiceRead : Reader := ((Reader.add {} (.ofChar {} 'a')).alternative).add (.ofChar {} 'b')

def commented : String := "(?x)a #letter"

def commentedRead : Reader :=
  (Reader.add { flags := { verbose := true } } .flags).add (.ofChar { verbose := true } 'a')

def split : String := "a)(b"

lemma choice_leads : Leads {} choice.toList choiceRead [] := .step rfl (.step rfl (.step rfl (.refl _ _)))

lemma commented_leads : Leads {} commented.toList commentedRead " #letter".toList :=
  .step rfl (.step rfl (.refl _ _))

lemma split_leads : Leads {} split.toList (Reader.add {} (.ofChar {} 'a')) [')', '(', 'b'] := .step rfl (.refl _ _)

lemma split_rest : ∃ t, run? ((Reader.add {} (.ofChar {} 'a')).outOf anchorGroup) (['(', 'b'] ++ closing) = some t ∧
    t.finish?.isSome ∧ t.fits := by
  rw [run?_of_next? (show next? _ _ = some (_, _) from rfl)]
  rw [run?_of_next? (show next? _ _ = some (_, _) from rfl)]
  rw [run?_of_next? (show next? _ _ = some (_, _) from rfl)]
  rw [run?_of_next? (show next? _ _ = some (_, _) from rfl)]
  rw [run?_eq]
  exact ⟨_, rfl, rfl, by decide⟩

lemma split_clashes : Clashes Pattern.fits split := by
  obtain ⟨t, ht, hvalid, hfits⟩ := split_rest
  refine .parenthesis ?_ ⟨_, _, _, split_leads, rfl, rfl, by rwa [ht]⟩
  rw [Pattern.fits, run?_anchored_of_close split_leads rfl (skip_append_of_close rfl), ht]
  exact hfits

lemma choice_fits : Pattern.fits choice ∧ Pattern.fits (Parameters.anchored choice) := by
  rw [Pattern.fits, run?_of_leads choice_leads rfl, Pattern.fits, run?_anchored_of_close choice_leads rfl rfl,
    run?_outOf]
  decide

lemma choice_not_clashes : ¬ Clashes Pattern.fits choice := by
  have hvalid : regex? choice = some choiceRead.body.regex := by
    rw [regex?_eq, run?_of_leads choice_leads rfl]
    rfl
  have hanchored : (regex? (Parameters.anchored choice)).isSome := by
    rw [regex?_eq, run?_anchored_of_close choice_leads rfl rfl, run?_outOf]
    rfl
  rintro (⟨-, -, hcomment⟩ | ⟨-, hgroup⟩ | ⟨-, -, hlimit⟩)
  · simp [regex?_anchored_of_comment hcomment] at hanchored
  · simp [(regex?_anchored_of_closesGroup hgroup).2] at hvalid
  · exact hlimit (choice_fits.1.trans choice_fits.2.symm)

lemma format_formatted (pattern : String) :
    Parameters.format (lookingAt []).config (formatted pattern) = .ok pattern := by
  have hparameter : (lookingAt []).config.parameters.format = ⟨1793⟩ := rfl
  have hsnaks : (formatted pattern).parameters.of ⟨1793⟩ = [.value ⟨1793⟩ (.string pattern)] := rfl
  rw [Parameters.format, hparameter, Parameters.single, hsnaks]
  rfl

end Sample

namespace Rule

open Sample

end Rule

end EntityAudit
