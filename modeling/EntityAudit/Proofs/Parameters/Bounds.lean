import EntityAudit.Proofs.Parameters.Demand
import Mathlib.Data.List.TakeWhile

/-!
The ends of a range. Both are read test by test and reading stops at the first failure, so that only the end which
passes fewer tests is reported.
-/

namespace EntityAudit

namespace Snak

def isQuantityEnd : Snak → Bool
  | .noValue _ => true
  | .someValue _ => false
  | .value _ (.quantity _) => true
  | .value _ _ => false

def isDateEnd : Snak → Bool
  | .noValue _ => true
  | .someValue _ => true
  | .value _ (.time _) => true
  | .value _ _ => false

def isPlain (config : Config) : Snak → Bool
  | .value _ (.quantity q) => q.unit.all (· = config.items.yearUnit)
  | _ => true

end Snak

namespace Demand

def bound (tests : List (Snak → Bool)) (p : PropertyId) : Demand :=
  { parameter := p, required := true, single := true, admits := fun s => ∀ test ∈ tests, test s = true }

def progress (tests : List (Snak → Bool)) (c : Constraint) (p : PropertyId) : Nat :=
  match c.parameters.of p with
  | [s] => (tests.takeWhile (· s)).length + 1
  | _ => 0

def worse (tests : List (Snak → Bool)) (c : Constraint) (minimum maximum : PropertyId) : PropertyId :=
  if progress tests c minimum ≤ progress tests c maximum then minimum else maximum

variable {tests : List (Snak → Bool)} {c : Constraint} {p minimum maximum : PropertyId} {s : Snak}

lemma progress_of_single (h : c.parameters.of p = [s]) :
    progress tests c p = (tests.takeWhile (· s)).length + 1 := by
  rw [progress, h]

lemma progress_pos (h : c.parameters.of p = [s]) : 1 ≤ progress tests c p := by
  rw [progress_of_single h]
  exact Nat.le_add_left 1 _

lemma kind_iff_two_le {kind : Snak → Bool} {rest : List (Snak → Bool)} (h : c.parameters.of p = [s]) :
    kind s = true ↔ 2 ≤ progress (kind :: rest) c p := by
  rw [progress_of_single h, List.takeWhile_cons]
  split
  · simp [*]
  · simp [*]

lemma met_bound_iff : (bound tests p).Met c ↔ progress tests c p = tests.length + 1 := by
  rw [bound, met_single_iff, progress]
  split
  · rename_i s hs
    have hpasses : (tests.takeWhile (· s)).length = tests.length ↔ ∀ test ∈ tests, test s = true := by
      rw [← List.takeWhile_eq_self_iff]
      exact ⟨(List.takeWhile_sublist _).eq_of_length, congrArg _⟩
    simp [hs, hpasses]
  · rename_i hone
    exact iff_of_false (fun ⟨s, hs, _⟩ => hone s hs) nofun

lemma progress_le : progress tests c p ≤ tests.length + 1 := by
  unfold progress
  split
  · exact Nat.succ_le_succ (List.takeWhile_sublist _).length_le
  · exact Nat.zero_le _

lemma worse_of_le (h : progress tests c minimum ≤ progress tests c maximum) :
    worse tests c minimum maximum = minimum :=
  if_pos h

lemma worse_of_lt (h : progress tests c maximum < progress tests c minimum) :
    worse tests c minimum maximum = maximum :=
  if_neg (Nat.not_le_of_lt h)

lemma progress_worse :
    progress tests c (worse tests c minimum maximum) = min (progress tests c minimum) (progress tests c maximum) := by
  rcases Nat.lt_or_ge (progress tests c maximum) (progress tests c minimum) with h | h
  · rw [worse_of_lt h, min_eq_right h.le]
  · rw [worse_of_le h, min_eq_left h]

lemma met_worse_iff : (bound tests (worse tests c minimum maximum)).Met c ↔
    (bound tests minimum).Met c ∧ (bound tests maximum).Met c := by
  have hminimum := @progress_le tests c minimum
  have hmaximum := @progress_le tests c maximum
  rw [met_bound_iff, met_bound_iff, met_bound_iff, progress_worse]
  omega

end Demand

namespace Parameters

open Demand

variable {config : Config} {c : Constraint} {minimum maximum : PropertyId} {kind : Snak → Bool}
  {rest : List (Snak → Bool)} {bound : PropertyId → Snak → Read (Option Bound)}

lemma quantityBound_decides (p : PropertyId) (s : Snak) :
    Decides p (s.isQuantityEnd = true) (quantityBound p s) := by
  cases s with
  | noValue => rfl
  | someValue => exact ⟨rfl, Bool.noConfusion⟩
  | value q v =>
    cases v with
    | quantity => rfl
    | _ => exact ⟨rfl, Bool.noConfusion⟩

lemma dateBound_decides (p : PropertyId) (s : Snak) : Decides p (s.isDateEnd = true) (dateBound p s) := by
  cases s with
  | noValue => rfl
  | someValue => rfl
  | value q v =>
    cases v with
    | time => rfl
    | _ => exact ⟨rfl, Bool.noConfusion⟩

lemma plainAmount_decides {p : PropertyId} {s : Snak} {b : Option Bound} (h : quantityBound p s = .ok b) :
    Decides p (s.isPlain config = true) (plainAmount config p b) := by
  cases s with
  | noValue =>
    cases h
    rfl
  | someValue => cases h
  | value q v =>
    cases v with
    | quantity x =>
      cases h
      change Decides p (x.unit.all (· = config.items.yearUnit) = true)
        (if x.unit.all (· = config.items.yearUnit) then _ else _)
      split
      · assumption
      · exact ⟨rfl, by assumption⟩
    | _ => cases h

section Reports

variable {tests : List (Snak → Bool)} {e : ParameterError} {n : Nat}

lemma low_reported (hname : e.parameter? = some minimum)
    (h : progress tests c minimum ≤ progress tests c maximum) (hn : progress tests c minimum < n) :
    e.parameter? = some (worse tests c minimum maximum) ∧
      progress tests c (worse tests c minimum maximum) < n := by
  rw [worse_of_le h]
  exact ⟨hname, hn⟩

lemma high_reported (hname : e.parameter? = some maximum)
    (h : progress tests c maximum < progress tests c minimum) (hn : progress tests c maximum < n) :
    e.parameter? = some (worse tests c minimum maximum) ∧
      progress tests c (worse tests c minimum maximum) < n := by
  rw [worse_of_lt h]
  exact ⟨hname, hn⟩

lemma not_met_of_progress {p : PropertyId} (h : progress tests c p < tests.length + 1) :
    ¬ (Demand.bound tests p).Met c := by
  rw [met_bound_iff]
  exact Nat.ne_of_lt h

end Reports

lemma progress_of_error {tests : List (Snak → Bool)} {p : PropertyId} {e : ParameterError}
    (h : single c p = .error e) : e.parameter? = some p ∧ progress tests c p = 0 := by
  have hsingle : Decides p _ (single c p) := single_decides
  obtain ⟨hname, hnot⟩ := hsingle.of_error h
  refine ⟨hname, ?_⟩
  unfold progress
  split
  · rename_i s hs
    exact absurd ⟨s, hs⟩ hnot
  · rfl

lemma range_ends (hbound : ∀ p s, Decides p (kind s = true) (bound p s)) :
    Ends (fun e => e.parameter? = some (worse (kind :: rest) c minimum maximum) ∧
        progress (kind :: rest) c (worse (kind :: rest) c minimum maximum) < 2)
      (fun r => ∃ s t, c.parameters.of minimum = [s] ∧ c.parameters.of maximum = [t] ∧
        kind s = true ∧ kind t = true ∧ bound minimum s = .ok r.minimum ∧ bound maximum t = .ok r.maximum)
      (range c minimum maximum bound) := by
  unfold range
  cases hminimum : single c minimum with
  | error e =>
    obtain ⟨hname, hzero⟩ := @progress_of_error c (kind :: rest) _ _ hminimum
    exact low_reported hname (by omega) (by omega)
  | ok s =>
    have hs : c.parameters.of minimum = [s] := of_single hminimum
    have hsone := @progress_pos (kind :: rest) _ _ _ hs
    have hskind := @kind_iff_two_le _ _ _ kind rest hs
    cases hmaximum : single c maximum with
    | error e =>
      obtain ⟨hname, hzero⟩ := @progress_of_error c (kind :: rest) _ _ hmaximum
      exact high_reported hname (by omega) (by omega)
    | ok t =>
      have ht : c.parameters.of maximum = [t] := of_single hmaximum
      have htone := @progress_pos (kind :: rest) _ _ _ ht
      have htkind := @kind_iff_two_le _ _ _ kind rest ht
      change Ends _ _ (bound minimum s >>= fun low => bound maximum t >>= fun high => .ok (Range.mk low high))
      cases hbs : bound minimum s with
      | error e =>
        obtain ⟨hname, hnot⟩ := (hbound minimum s).of_error hbs
        rw [hskind] at hnot
        exact low_reported hname (by omega) (by omega)
      | ok low =>
        have hs' : kind s = true := (hbound minimum s).of_ok hbs
        cases hbt : bound maximum t with
        | error e =>
          obtain ⟨hname, hnot⟩ := (hbound maximum t).of_error hbt
          rw [hskind] at hs'
          rw [htkind] at hnot
          exact high_reported hname (by omega) (by omega)
        | ok high =>
          have ht' : kind t = true := (hbound maximum t).of_ok hbt
          exact ⟨s, t, hs, ht, hs', ht', hbs, hbt⟩

lemma range_reads (hbound : ∀ p s, Decides p (kind s = true) (bound p s)) :
    Reads (.bound [kind] (worse [kind] c minimum maximum)) c (range c minimum maximum bound) := by
  have hends := @range_ends c minimum maximum kind [] bound hbound
  cases hrange : range c minimum maximum bound with
  | error e =>
    obtain ⟨hname, htwo⟩ := hends.of_error hrange
    exact ⟨hname, not_met_of_progress htwo⟩
  | ok r =>
    obtain ⟨s, t, hs, ht, hs', ht', -⟩ := hends.of_ok hrange
    refine met_worse_iff.mpr ⟨?_, ?_⟩
    · exact met_single_iff.mpr ⟨s, hs, by simp [hs']⟩
    · exact met_single_iff.mpr ⟨t, ht, by simp [ht']⟩

abbrev plainTests (config : Config) : List (Snak → Bool) := [Snak.isQuantityEnd, Snak.isPlain config]

lemma difference_reads {p : PropertyId} (hproperty : property config c = .ok p) :
    Reads (.bound (plainTests config) (worse (plainTests config) c config.parameters.minimumQuantity
      config.parameters.maximumQuantity)) c (difference config c) := by
  have hends := @range_ends c config.parameters.minimumQuantity config.parameters.maximumQuantity
    Snak.isQuantityEnd [Snak.isPlain config] quantityBound quantityBound_decides
  unfold difference
  rw [hproperty]
  change Reads _ c (quantityRange config c >>= _)
  cases hrange : quantityRange config c with
  | error e =>
    obtain ⟨hname, htwo⟩ := hends.of_error hrange
    exact ⟨hname, not_met_of_progress (Nat.lt_succ_of_lt htwo)⟩
  | ok r =>
    obtain ⟨s, t, hs, ht, hs', ht', hlow, hhigh⟩ := hends.of_ok hrange
    have hprogress {p : PropertyId} {s : Snak} (hs : c.parameters.of p = [s]) (hkind : s.isQuantityEnd = true) :
        2 ≤ progress (plainTests config) c p ∧
          (s.isPlain config = true ↔ 3 ≤ progress (plainTests config) c p) := by
      rw [progress_of_single hs, List.takeWhile_cons, if_pos hkind, List.takeWhile_cons]
      split
      · simp [*]
      · simp [*]
    obtain ⟨hstwo, hsplain⟩ := hprogress hs hs'
    obtain ⟨httwo, htplain⟩ := hprogress ht ht'
    change Reads _ c (plainAmount config config.parameters.minimumQuantity r.minimum >>= fun low =>
      plainAmount config config.parameters.maximumQuantity r.maximum >>= fun high => .ok (p, low, high))
    cases hbs : plainAmount config config.parameters.minimumQuantity r.minimum with
    | error e =>
      obtain ⟨hname, hnot⟩ := (plainAmount_decides hlow).of_error hbs
      rw [hsplain] at hnot
      exact (low_reported hname (by omega) (Nat.lt_of_not_le hnot)).imp_right not_met_of_progress
    | ok low =>
      have hs'' : s.isPlain config = true := (plainAmount_decides hlow).of_ok hbs
      cases hbt : plainAmount config config.parameters.maximumQuantity r.maximum with
      | error e =>
        obtain ⟨hname, hnot⟩ := (plainAmount_decides hhigh).of_error hbt
        rw [hsplain] at hs''
        rw [htplain] at hnot
        exact (high_reported hname (by omega) (Nat.lt_of_not_le hnot)).imp_right not_met_of_progress
      | ok high =>
        have ht'' : t.isPlain config = true := (plainAmount_decides hhigh).of_ok hbt
        refine met_worse_iff.mpr ⟨?_, ?_⟩
        · exact met_single_iff.mpr ⟨s, hs, by simp [hs', hs'']⟩
        · exact met_single_iff.mpr ⟨t, ht, by simp [ht', ht'']⟩

end Parameters

end EntityAudit
