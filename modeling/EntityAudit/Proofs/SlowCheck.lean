import EntityAudit.Proofs.Decimal.Unpacked
import EntityAudit.Proofs.Program

namespace EntityAudit

def Slowness.weight : Option Slowness → Nat
  | none => 0
  | some info => 1
  | some warning => 2

namespace SlowCheck

open Decimal

/-- More seconds than a duration holds, infinitely many among them. -/
def Endless (seconds : Float) : Prop := 0 < seconds ∧ 2 ^ 64 ≤ (Binary.ofFloat seconds).value

variable {x : Float} {c : Config}

lemma value_of_limit : (Binary.ofFloat 18446744073709551616.0).value = 2 ^ 64 := by
  have hbinary : (Binary.ofFloat 18446744073709551616.0).significand = 2 ^ 52 ∧
      (Binary.ofFloat 18446744073709551616.0).exponent = 12 := by decide
  rw [Binary.value, hbinary.1, hbinary.2]
  norm_num

lemma nanoseconds?_eq_none_iff : nanoseconds? x = none ↔ Endless x := by
  unfold nanoseconds? Endless
  by_cases hpos : 0 < x
  · have hlimit : 18446744073709551616.0 ≤ x ↔ 2 ^ 64 ≤ (Binary.ofFloat x).value := by
      rw [le_iff_of_pos (by decide) hpos, value_of_limit]
    simp [hpos, hlimit]
  · simp [hpos]

lemma ofConfig?_isSome_iff :
    (ofConfig? c).isSome = true ↔
      ¬ Endless c.checkDurationInfoSeconds ∧ ¬ Endless c.checkDurationWarningSeconds := by
  rw [← nanoseconds?_eq_none_iff, ← nanoseconds?_eq_none_iff]
  unfold ofConfig?
  cases nanoseconds? c.checkDurationInfoSeconds with
  | none => simp
  | some n =>
    cases nanoseconds? c.checkDurationWarningSeconds with
    | none => simp
    | some m => simp

def Graded (c : Config) : Prop :=
  ∃ s, ofConfig? c = some s ∧ Monotone fun d => Slowness.weight (s.level? d)

lemma monotone_weight_level? (s : SlowCheck) : Monotone fun d => Slowness.weight (s.level? d) := by
  intro d e hde
  simp only [level?]
  split
  · rw [if_pos (by omega)]
  · split
    · split
      · decide
      · rw [if_pos (by omega)]
    · exact Nat.zero_le _

lemma graded_iff :
    Graded c ↔ ¬ Endless c.checkDurationInfoSeconds ∧ ¬ Endless c.checkDurationWarningSeconds := by
  rw [← ofConfig?_isSome_iff, Option.isSome_iff_exists]
  constructor
  · rintro ⟨s, hs, -⟩
    exact ⟨s, hs⟩
  · rintro ⟨s, hs⟩
    exact ⟨s, hs, s.monotone_weight_level?⟩

end SlowCheck

namespace Program

section

variable {α β ε : Type} {x : Run (StateM Directory) α} {f : α → Run (StateM Directory) β} {b : β} {d : Directory}

lemma exists_of_run_bind (h : ((x >>= f).run d).1 = .ok b) : ∃ a e, ((f a).run e).1 = .ok b := by
  rw [run_bind] at h
  split at h
  · exact ⟨_, _, h⟩
  · cases h

lemma exists_of_isOk {r : Except Failure α} (h : r.isOk = true) : ∃ a, r = .ok a := by
  cases r with
  | error failure => cases h
  | ok a => exact ⟨a, rfl⟩

def NoThreshold (x : Run (StateM Directory) α) : Prop := ∀ d, (x.run d).1 ≠ .error .threshold

lemma NoThreshold.bind (hx : NoThreshold x) (hf : ∀ a, NoThreshold (f a)) : NoThreshold (x >>= f) := by
  intro d h
  rw [run_bind] at h
  split at h
  · exact hf _ _ h
  · rename_i failure e heq
    refine hx d ?_
    obtain rfl : failure = .threshold := Except.error.inj h
    rw [heq]

lemma noThreshold_pure (a : α) : NoThreshold (pure a : Run (StateM Directory) α) := nofun

lemma noThreshold_lift (x : StateM Directory α) : NoThreshold (x : Run (StateM Directory) α) := nofun

lemma noThreshold_orFail (message : ε → String) (r : Except ε α) :
    NoThreshold (orFail (m := StateM Directory) message r) := by
  cases r with
  | ok a => exact noThreshold_pure a
  | error e => nofun

end

variable {s : Settings}

lemma noThreshold_readDump (path : String) : NoThreshold (readDump (m := StateM Directory) path) :=
  (noThreshold_lift _).bind fun _ => (noThreshold_orFail _ _).bind fun _ => noThreshold_orFail _ _

lemma noThreshold_pages (s : Settings) (file : Option String) :
    NoThreshold (pages (m := StateM Directory) s file) := by
  cases file with
  | none => exact (noThreshold_orFail _ _).bind fun _ => noThreshold_pure _
  | some path =>
    exact (noThreshold_lift _).bind fun _ => (noThreshold_orFail _ _).bind fun _ => noThreshold_pure _

lemma noThreshold_open (h : (SlowCheck.ofConfig? s.checker).isSome = true) (dump : String)
    (pageFile : Option String) : NoThreshold (open_ (m := StateM Directory) s dump pageFile) := by
  refine (noThreshold_readDump dump).bind fun _ => (noThreshold_pages s pageFile).bind fun _ => ?_
  rw [if_neg (by simp [Option.isSome_iff_ne_none.mp h])]
  exact (noThreshold_lift _).bind fun _ => noThreshold_pure _

lemma isSome_of_open {dump : String} {pageFile : Option String} {d : Directory} {session : Session}
    (h : ((open_ (m := StateM Directory) s dump pageFile).run d).1 = .ok session) :
    (SlowCheck.ofConfig? s.checker).isSome = true := by
  obtain ⟨_, _, h⟩ := exists_of_run_bind h
  obtain ⟨_, _, h⟩ := exists_of_run_bind h
  by_contra hnone
  rw [if_pos (by simpa using hnone)] at h
  cases h

end Program

namespace SlowCheck

open Decimal

/-- A setting of a threshold is a number, and nothing else is asked of it; but checks have a level exactly if
neither threshold is endless. Where they have none, no dump is opened; where they have one, opening a dump never
fails for want of a threshold. -/
theorem graded_iff_not_endless (s : Settings) :
    (Graded s.checker ↔
      ¬ Endless s.checker.checkDurationInfoSeconds ∧ ¬ Endless s.checker.checkDurationWarningSeconds) ∧
    (∀ (text : String) (x : Float), Decimal.float? text = some x →
      (∃ t, s.set .checkDurationInfoSeconds text = (.ok (), t) ∧
        (Graded t.checker ↔ ¬ Endless x ∧ ¬ Endless s.checker.checkDurationWarningSeconds)) ∧
      (∃ t, s.set .checkDurationWarningSeconds text = (.ok (), t) ∧
        (Graded t.checker ↔ ¬ Endless s.checker.checkDurationInfoSeconds ∧ ¬ Endless x))) ∧
    ∀ (dump : String) (pageFile : Option String) (d : Directory),
      let opened := ((Program.open_ (m := StateM Directory) s dump pageFile).run d).1
      (Graded s.checker → opened ≠ .error .threshold) ∧ ∀ session, opened = .ok session → Graded s.checker := by
  refine ⟨graded_iff, fun text x h => ⟨?_, ?_⟩, fun dump pageFile d => ⟨fun h => ?_, fun _ h => ?_⟩⟩
  · refine ⟨{ s with checker := { s.checker with checkDurationInfoSeconds := x } }, ?_, graded_iff⟩
    simp only [Settings.set, Settings.edit, h]
    rfl
  · refine ⟨{ s with checker := { s.checker with checkDurationWarningSeconds := x } }, ?_, graded_iff⟩
    simp only [Settings.set, Settings.edit, h]
    rfl
  · exact Program.noThreshold_open (ofConfig?_isSome_iff.mpr (graded_iff.mp h)) dump pageFile d
  · exact graded_iff.mpr (ofConfig?_isSome_iff.mp (Program.isSome_of_open h))

theorem graded_after_half_second :
    let d : Directory := .ofFiles [("dump", "[]"), ("pages", "")] ⟨0, 0⟩
    let opened (s : Settings) := ((Program.open_ (m := StateM Directory) s "dump" (some "pages")).run d).1
    Decimal.float? "0.5" = some 0.5 ∧
      (∃ t, Settings.set { dataDir := "" } .checkDurationInfoSeconds "0.5" = (.ok (), t) ∧ Graded t.checker ∧
        opened t ≠ .error .threshold) ∧
      ∃ session, opened { dataDir := "" } = .ok session ∧ Graded {} := by
  intro d opened
  refine ⟨rfl, ?_, ?_⟩
  · obtain ⟨⟨t, ht, hgraded⟩, -⟩ := (graded_iff_not_endless { dataDir := "" }).2.1 "0.5" 0.5 rfl
    have hlevel : Graded t.checker :=
      hgraded.mpr ⟨nanoseconds?_eq_none_iff.not.mp (by decide), nanoseconds?_eq_none_iff.not.mp (by decide)⟩
    exact ⟨t, ht, hlevel, ((graded_iff_not_endless t).2.2 "dump" (some "pages") d).1 hlevel⟩
  · have hopened : (opened { dataDir := "" }).isOk = true := by decide +kernel
    obtain ⟨session, hsession⟩ := Program.exists_of_isOk hopened
    obtain ⟨-, hgraded⟩ := (graded_iff_not_endless { dataDir := "" }).2.2 "dump" (some "pages") d
    exact ⟨session, hsession, hgraded session hsession⟩

theorem endless_thresholds_accepted :
    (∃ c, Config.ofJson? (.object [("check_duration_info_seconds", .float 1e20)]) = some c ∧
      ofConfig? c = none) ∧
    ∃ s, Settings.set { dataDir := "" } .checkDurationWarningSeconds "inf" = (.ok (), s) ∧
      ofConfig? s.checker = none :=
  ⟨⟨{ checkDurationInfoSeconds := 1e20 }, rfl, rfl⟩,
    ⟨{ dataDir := "", checker := { checkDurationWarningSeconds := 1.0 / 0.0 } }, rfl, rfl⟩⟩

end SlowCheck

end EntityAudit
