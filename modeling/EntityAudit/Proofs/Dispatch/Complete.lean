import EntityAudit.Proofs.Dispatch.Report
import EntityAudit.Proofs.Parameters.Bounds
import Mathlib.Data.List.Forall2

/-!
Which parameters the report on a constraint names. It names those whose demands are not met, as far as it comes to
them: not the better one of the two ends of a range, nor the unit of an end beside a property that is wrong, nor a
list of scopes that is given without a snak.
-/

namespace EntityAudit

namespace SortedMap

variable {α β γ : Type} [Ord α] [Std.LawfulEqOrd α] [Std.TransOrd α]

lemma rel_get?_ofList {R : α → β → γ → Prop} {l : List (α × β)} {k : List (α × γ)}
    (h : List.Forall₂ (fun e d => e.1 = d.1 ∧ R e.1 e.2 d.2) l k) (a : α) :
    Option.Rel (R a) ((ofList l).get? a) ((ofList k).get? a) := by
  classical
  suffices hfold : ∀ (m : SortedMap α β) (n : SortedMap α γ), Option.Rel (R a) (m.get? a) (n.get? a) →
      Option.Rel (R a) ((l.foldl (fun m e => m.insert e.1 e.2) m).get? a)
        ((k.foldl (fun m e => m.insert e.1 e.2) n).get? a) from hfold _ _ .none
  induction h with
  | nil => exact fun _ _ h => h
  | cons hed _ ih =>
    rename_i e d l k hrest
    intro m n hmn
    obtain ⟨hkey, hR⟩ := hed
    apply ih
    rw [get?_insert, get?_insert, ← hkey]
    split
    · rename_i ha
      exact .some (ha ▸ hR)
    · exact hmn

end SortedMap

open Parameters Rule

structure Reports (c : Constraint) (problems : List ParameterError) (reached : Demand → Prop) : Prop where
  sound : ∀ e ∈ problems, ∃ f, reached f ∧ ¬ f.Met c ∧ e.parameter? = some f.parameter
  complete : ∀ f, reached f → ¬ f.Met c → ∃ e ∈ problems, e.parameter? = some f.parameter

namespace Reports

variable {c : Constraint} {l k : List ParameterError} {reached also : Demand → Prop} {f g : Demand} {α β : Type}
  {x : Read α} {y : Read β}

lemma congr (h : Reports c l reached) (hiff : ∀ f, ¬ f.Met c → (reached f ↔ also f)) : Reports c l also := by
  refine ⟨fun e he => ?_, fun f hf hnot => h.complete f ((hiff f hnot).mpr hf) hnot⟩
  obtain ⟨f, hf, hnot, hname⟩ := h.sound e he
  exact ⟨f, (hiff f hnot).mp hf, hnot, hname⟩

lemma append (h : Reports c l reached) (h' : Reports c k also) :
    Reports c (l ++ k) fun f => reached f ∨ also f := by
  refine ⟨fun e he => ?_, fun f hf hnot => ?_⟩
  · rcases List.mem_append.mp he with he | he
    · obtain ⟨f, hf, hrest⟩ := h.sound e he
      exact ⟨f, .inl hf, hrest⟩
    · obtain ⟨f, hf, hrest⟩ := h'.sound e he
      exact ⟨f, .inr hf, hrest⟩
  · rcases hf with hf | hf
    · obtain ⟨e, he, hname⟩ := h.complete f hf hnot
      exact ⟨e, List.mem_append_left _ he, hname⟩
    · obtain ⟨e, he, hname⟩ := h'.complete f hf hnot
      exact ⟨e, List.mem_append_right _ he, hname⟩

lemma of_nil : Reports c [] (· ∈ []) := ⟨nofun, nofun⟩

lemma of_read (h : Reads f c x) : Reports c (problem x) (· ∈ [f]) := by
  simp only [List.mem_singleton]
  cases x with
  | ok a => exact ⟨nofun, fun g hg hnot => absurd h (hg ▸ hnot)⟩
  | error e =>
    refine ⟨fun e' he => ⟨f, rfl, h.2, ?_⟩, fun g hg _ => ⟨e, List.mem_singleton_self e, ?_⟩⟩
    · rw [List.mem_singleton.mp he, h.1]
    · rw [hg, h.1]

lemma of_reads (h : Reads f c x) (h' : Reads g c y) : Reports c (problem x ++ problem y) (· ∈ [f, g]) :=
  ((of_read h).append (of_read h')).congr (by simp)

lemma eq_nil (h : Reports c l reached) (hmet : ∀ f, reached f → f.Met c) : l = [] := by
  rw [List.eq_nil_iff_forall_not_mem]
  intro e he
  obtain ⟨f, hf, hnot, -⟩ := h.sound e he
  exact hnot (hmet f hf)

end Reports

/-- What the constraints of a type have to be like. -/
structure Form where
  demands : Constraint → List Demand
  reached : Constraint → Demand → Prop := fun c f => f ∈ demands c
  mem_of_reached : ∀ c f, reached c f → f ∈ demands c := by exact fun _ _ h => h

namespace Form

open Demand

def fixed (l : List Demand) : Form := { demands := fun _ => l }

def along (form : Form) (l : List Demand) : Form where
  demands c := l ++ form.demands c
  reached c f := f ∈ l ∨ form.reached c f
  mem_of_reached c f h := List.mem_append.mpr (h.imp_right (form.mem_of_reached c f))

variable (config : Config)

def quantityEnds (tests : List (Snak → Bool)) : List Demand :=
  [bound tests config.parameters.minimumQuantity, bound tests config.parameters.maximumQuantity]

def dateEnds : List Demand :=
  [bound [Snak.isDateEnd] config.parameters.minimumDate, bound [Snak.isDateEnd] config.parameters.maximumDate]

def worseQuantity (tests : List (Snak → Bool)) (c : Constraint) : PropertyId :=
  worse tests c config.parameters.minimumQuantity config.parameters.maximumQuantity

def worseDate (c : Constraint) : PropertyId :=
  worse [Snak.isDateEnd] c config.parameters.minimumDate config.parameters.maximumDate

def givesQuantities (c : Constraint) : Bool :=
  isGiven c config.parameters.minimumQuantity || isGiven c config.parameters.maximumQuantity

def givesDates (c : Constraint) : Bool :=
  isGiven c config.parameters.minimumDate || isGiven c config.parameters.maximumDate

lemma bound_worse_mem (tests : List (Snak → Bool)) (c : Constraint) (p q : PropertyId) :
    bound tests (worse tests c p q) ∈ [bound tests p, bound tests q] := by
  unfold worse
  split
  · exact List.mem_cons_self
  · exact List.mem_cons_of_mem _ List.mem_cons_self

def range : Form where
  demands c := if givesDates config c then dateEnds config else quantityEnds config [Snak.isQuantityEnd]
  reached c f := f = if givesDates config c then bound [Snak.isDateEnd] (worseDate config c)
    else bound [Snak.isQuantityEnd] (worseQuantity config [Snak.isQuantityEnd] c)
  mem_of_reached := by
    rintro c f rfl
    split
    · exact bound_worse_mem _ _ _ _
    · exact bound_worse_mem _ _ _ _

def diffWithinRange : Form where
  demands _ := .property config :: quantityEnds config (plainTests config)
  reached c f := f = .property config ∨ f = bound (plainTests config) (worseQuantity config (plainTests config) c) ∧
    ((Demand.property config).Met c ∨ progress (plainTests config) c (worseQuantity config (plainTests config) c) < 2)
  mem_of_reached := by
    rintro c f (rfl | ⟨rfl, -⟩)
    · exact List.mem_cons_self
    · exact List.mem_cons_of_mem _ (bound_worse_mem _ _ _ _)

def propertyScope : Form where
  demands _ := [.propertyScope config]
  reached c f := f ∈ [Demand.propertyScope config] ∧
    c.parameters.get? config.parameters.propertyScope ≠ some []
  mem_of_reached := fun _ _ h => h.1

def entries : List (ItemId × Form) :=
  let types := config.constraintTypes
  let connection := fixed [.property config, .items config false]
  let membership := fixed [.classes config, .relation config]
  [(types.conflictsWith, connection),
    (types.item, connection),
    (types.targetRequiredClaim, connection),
    (types.symmetric, fixed []),
    (types.inverse, fixed [.property config]),
    (types.qualifier, fixed []),
    (types.qualifiers, fixed [.properties config false]),
    (types.mandatoryQualifiers, fixed [.properties config true]),
    (types.range, range config),
    (types.diffWithinRange, diffWithinRange config),
    (types.typeOf, membership),
    (types.valueType, membership),
    (types.singleValue, fixed [.separators config]),
    (types.multiValue, fixed [.separators config]),
    (types.uniqueValue, fixed []),
    (types.format, fixed [.format config]),
    (types.commonsLink, fixed [.pageNamespace config]),
    (types.oneOf, fixed [.items config true]),
    (types.reference, fixed []),
    (types.noneOf, fixed [.items config true]),
    (types.singleBestValue, fixed [.separators config]),
    (types.integer, fixed []),
    (types.noBounds, fixed []),
    (types.allowedUnits, fixed [.units config]),
    (types.allowedEntityTypes, fixed [.entityKinds config]),
    (types.propertyScope, propertyScope config)]

structure Describes (rule : Rule) (form : Form) (fits : Constraint → Prop) : Prop where
  reports : ∀ c, fits c → Reports c (rule.problems config c) (form.reached c)
  lasting : ∀ c d, fits d → (∀ f ∈ form.demands c, f.Met d) → form.demands d = form.demands c

variable {config} {rule : Rule} {fits : Constraint → Prop} {l : List Demand}

lemma fixed_describes (h : ∀ c, Reports c (rule.problems config c) (· ∈ l)) :
    Describes config rule (fixed l) fits :=
  ⟨fun c _ => h c, fun _ _ _ _ => rfl⟩

lemma given_of_met {tests : List (Snak → Bool)} {p : PropertyId} {c : Constraint} (h : (bound tests p).Met c) :
    isGiven c p = true := by
  obtain ⟨s, hs, -⟩ := met_single_iff.mp h
  exact contains_of_ne_nil (hs ▸ List.cons_ne_nil _ _)

lemma range_describes (hfits : ∀ c, fits c → ¬ (givesQuantities config c = true ∧ givesDates config c = true)) :
    Describes config Rule.range (range config) fits where
  reports c hc := by
    have hproblems : Rule.range.problems config c = if givesQuantities config c && givesDates config c
        then [.rangesOfTwoKinds] else if givesDates config c then problem (dateRange config c)
          else problem (quantityRange config c) := rfl
    rw [hproblems, if_neg (by simpa using hfits c hc)]
    simp only [range, ← List.mem_singleton]
    split
    · exact .of_read (range_reads dateBound_decides)
    · exact .of_read (range_reads quantityBound_decides)
  lasting c d hd hmet := by
    simp only [range] at hmet ⊢
    cases hc : givesDates config c with
    | true =>
      have hdates : givesDates config d = true := by
        rw [hc] at hmet
        exact Bool.or_eq_true_iff.mpr (.inl (given_of_met (hmet _ List.mem_cons_self)))
      rw [hdates]
    | false =>
      have hquantities : givesQuantities config d = true := by
        rw [hc] at hmet
        exact Bool.or_eq_true_iff.mpr (.inl (given_of_met (hmet _ List.mem_cons_self)))
      have hdates : givesDates config d = false := by
        simpa [hquantities] using hfits d hd
      rw [hdates]

lemma difference_of_property_error {c : Constraint} {e : ParameterError} (h : Parameters.property config c = .error e) :
    difference config c = .error e := by
  unfold difference
  rw [h]
  rfl

lemma quantityRange_bind_difference {c : Constraint} {p : PropertyId} (h : Parameters.property config c = .ok p) :
    (quantityRange config c >>= fun _ => difference config c) = difference config c := by
  unfold difference
  rw [h]
  cases quantityRange config c with
  | error e => rfl
  | ok r => rfl

lemma diffWithinRange_describes : Describes config Rule.diffWithinRange (diffWithinRange config) fits where
  reports c _ := by
    let first := problem (Parameters.property config c)
    let rest := problem (quantityRange config c >>= fun _ => difference config c)
    change Reports c (first ++ rest.filter (· ∉ first)) _
    have hends := @range_ends c config.parameters.minimumQuantity config.parameters.maximumQuantity
      Snak.isQuantityEnd [Snak.isPlain config] quantityBound quantityBound_decides
    cases hproperty : Parameters.property config c with
    | ok p =>
      have hmet : (Demand.property config).Met c := property_reads.of_ok hproperty
      have hfirst : first = [] := congrArg problem hproperty
      have hrest : rest = problem (difference config c) := congrArg problem (quantityRange_bind_difference hproperty)
      have hlist : first ++ rest.filter (· ∉ first) = problem (difference config c) := by
        simp [hfirst, hrest]
      rw [hlist]
      refine (Reports.of_read (difference_reads hproperty)).congr fun f hnot => ?_
      rw [List.mem_singleton]
      constructor
      · rintro rfl
        exact .inr ⟨rfl, .inl hmet⟩
      · rintro (rfl | ⟨rfl, -⟩)
        · exact absurd hmet hnot
        · rfl
    | error e =>
      obtain ⟨hname, hnot⟩ := property_reads.of_error hproperty
      have hfirst : first = [e] := congrArg problem hproperty
      cases hrange : quantityRange config c with
      | error e' =>
        obtain ⟨hname', htwo⟩ := hends.of_error hrange
        have hrest : rest = [e'] := by
          simp only [rest, hrange]
          rfl
        -- an error that stands in the first list already names the same parameter there
        have hmem (e'' : ParameterError) : e'' ∈ first ++ rest.filter (· ∉ first) ↔ e'' = e ∨ e'' = e' := by
          rw [hfirst, hrest]
          by_cases h : e' = e
          · simp [h]
          · simp [h]
        refine ⟨fun e'' he => ?_, ?_⟩
        · rcases (hmem e'').mp he with rfl | rfl
          · exact ⟨_, .inl rfl, hnot, hname⟩
          · exact ⟨_, .inr ⟨rfl, .inr htwo⟩, not_met_of_progress (Nat.lt_succ_of_lt htwo), hname'⟩
        · rintro f (rfl | ⟨rfl, -⟩) -
          · exact ⟨e, (hmem e).mpr (.inl rfl), hname⟩
          · exact ⟨e', (hmem e').mpr (.inr rfl), hname'⟩
      | ok r =>
        obtain ⟨s, t, hs, ht, hs', ht', -⟩ := hends.of_ok hrange
        have hrest : rest = [e] := by
          simp only [rest, hrange, difference_of_property_error hproperty]
          rfl
        have hlist : first ++ rest.filter (· ∉ first) = problem (Parameters.property config c) := by
          simp [hfirst, hrest, hproperty, problem]
        have htwo : 2 ≤ progress (plainTests config) c (worseQuantity config (plainTests config) c) := by
          rw [worseQuantity, progress_worse]
          exact le_min ((kind_iff_two_le hs).mp hs') ((kind_iff_two_le ht).mp ht')
        rw [hlist]
        refine (Reports.of_read property_reads).congr fun f _ => ?_
        rw [List.mem_singleton]
        constructor
        · exact .inl
        · rintro (rfl | ⟨rfl, hmet | hless⟩)
          · rfl
          · exact absurd hmet hnot
          · exact absurd htwo (Nat.not_le_of_lt hless)
  lasting _ _ _ _ := rfl

lemma propertyScope_describes : Describes config Rule.propertyScope (propertyScope config) fits where
  reports c _ := by
    change Reports c (problem (Parameters.propertyScope config c)) _
    by_cases hempty : c.parameters.get? config.parameters.propertyScope = some []
    · rw [propertyScope_of_empty hempty]
      exact ⟨nofun, fun f hf => absurd hempty hf.2⟩
    · exact (Reports.of_read (propertyScope_reads hempty)).congr fun f _ => (and_iff_left hempty).symm
  lasting _ _ _ _ := rfl

def OneKind (config : Config) (c : Constraint) : Prop :=
  ¬ (givesQuantities config c = true ∧ givesDates config c = true)

abbrev DescribesType (config : Config) (type : ItemId) (rule : Rule) (form : Form) : Prop :=
  Describes config rule form fun c => type = config.constraintTypes.range → OneKind config c

lemma entries_describe (config : Config) :
    List.Forall₂ (fun e d => e.1 = d.1 ∧ DescribesType config e.1 e.2 d.2) (Catalog.entries config.constraintTypes)
      (entries config) := by
  have hconnection : ∀ c, Reports c (connectionProblems config c) (· ∈ _) := fun _ =>
    .of_reads property_reads items_reads
  have hmembership : ∀ c, Reports c (classProblems config c) (· ∈ _) := fun _ =>
    .of_reads classes_reads relation_reads
  have hseparators : ∀ c, Reports c (problem (separators config c)) (· ∈ _) := fun _ => .of_read separators_reads
  have hnothing : ∀ c, Reports c [] (· ∈ []) := fun _ => .of_nil
  unfold Catalog.entries entries
  simp only [List.forall₂_cons, true_and, List.forall₂_nil_left_iff, and_true]
  exact ⟨fixed_describes hconnection, fixed_describes hconnection, fixed_describes hconnection,
    fixed_describes hnothing, fixed_describes fun _ => .of_read property_reads, fixed_describes hnothing,
    fixed_describes fun _ => .of_read properties_reads, fixed_describes fun _ => .of_read someProperties_reads,
    range_describes fun _ hfits => hfits rfl, diffWithinRange_describes, fixed_describes hmembership,
    fixed_describes hmembership, fixed_describes hseparators, fixed_describes hseparators,
    fixed_describes hnothing, fixed_describes fun _ => .of_read format_reads,
    fixed_describes fun _ => .of_read pageNamespace_reads, fixed_describes fun _ => .of_read someItems_reads,
    fixed_describes hnothing, fixed_describes fun _ => .of_read someItems_reads, fixed_describes hseparators,
    fixed_describes hnothing, fixed_describes hnothing, fixed_describes fun _ => .of_read units_reads,
    fixed_describes fun _ => .of_read entityKinds_reads, propertyScope_describes⟩

end Form

namespace Auditor

variable {a : Auditor} {rule : Rule} {c : Constraint}

lemma mem_keys_iff {α : Type} {table : List (ItemId × α)} {id : ItemId} :
    id ∈ table.map (·.1) ↔ ∃ x, (table.find? (·.1 = id)).map (·.2) = some x := by
  constructor
  · intro hid
    obtain ⟨e, he, rfl⟩ := List.mem_map.mp hid
    have hsome : (table.find? (·.1 = e.1)).isSome = true :=
      List.find?_isSome.mpr ⟨e, he, decide_eq_true rfl⟩
    obtain ⟨d, hd⟩ := Option.isSome_iff_exists.mp hsome
    exact ⟨d.2, congrArg (·.map (·.2)) hd⟩
  · rintro ⟨x, hx⟩
    obtain ⟨e, he, -⟩ := Option.map_eq_some_iff.mp hx
    have hkey := List.find?_some he
    exact List.mem_map.mpr ⟨e, List.mem_of_find?_eq_some he, of_decide_eq_true hkey⟩

lemma roles_reads : Reads (.scope a.config rule.support) c (a.roles rule c) := by
  refine Decides.congr ?_ Demand.met_list_iff.symm
  simp only [Bool.not_false, List.filter_true]
  unfold Auditor.roles
  let p := a.config.parameters.constraintScope
  let table := Demand.scopeRoles a.config
  by_cases hcontains : c.parameters.contains p = true
  · have hscope : scope a.config c = Parameters.roles c p table >>= fun l => .ok (some l) := by
      unfold scope
      rw [if_pos hcontains]
      rfl
    rw [hscope]
    refine ((roles_decides p table).map some).bind (fun scope hscope => ?_) fun hall s hs => ?_
    · obtain ⟨l, hl, hsome⟩ := bind_eq_ok_iff.mp hscope
      cases hsome
      dsimp only
      cases hfind : l.find? (rule.support · = .notSupported) with
      | some role =>
        refine ⟨rfl, fun hall => ?_⟩
        obtain ⟨s, hs, id, hid, hrole⟩ := (mem_of_roles hl).mp (List.mem_of_find?_eq_some hfind)
        obtain ⟨id', role', hid', hrole', hsupport⟩ := hall s hs
        obtain rfl : id = id' := by simpa [hid] using hid'
        obtain rfl : role = role' := Option.some.inj (hrole.symm.trans hrole')
        exact hsupport (by simpa using List.find?_some hfind)
      | none =>
        intro s hs
        obtain ⟨id, hmem, hid⟩ := (roles_decides p table).of_ok hl s hs
        obtain ⟨role, hrole⟩ := mem_keys_iff.mp hmem
        refine ⟨id, role, hid, hrole, ?_⟩
        simpa using List.find?_eq_none.mp hfind role ((mem_of_roles hl).mpr ⟨s, hs, id, hid, hrole⟩)
    · obtain ⟨id, role, hid, hrole, -⟩ := hall s hs
      exact ⟨id, mem_keys_iff.mpr ⟨role, hrole⟩, hid⟩
  · have hscope : scope a.config c = .ok none := by
      unfold scope
      rw [if_neg hcontains]
      rfl
    rw [hscope]
    have hnil : c.parameters.of p = [] := by
      by_contra hne
      exact hcontains (Demand.contains_of_ne_nil hne)
    intro s hs
    rw [hnil] at hs
    cases hs

def common (a : Auditor) (rule : Rule) : List Demand :=
  [.scope a.config rule.support, .exceptions a.config, .weight a.config]

def form? (a : Auditor) (type : ItemId) : Option Form := do
  let rule ← a.catalog.get? type
  let form ← (SortedMap.ofList (Form.entries a.config)).get? type
  return form.along (a.common rule)

lemma common_reports : Reports c (problem (a.roles rule c) ++ problem (Parameters.exceptions a.config c) ++
    problem (Parameters.weight a.config c)) (· ∈ a.common rule) :=
  (((Reports.of_read roles_reads).append (.of_read exceptions_reads)).append (.of_read weight_reads)).congr
    (by simp [common, or_assoc])

lemma describes_of_form {s : Services} {K : ConstraintSource} {type : ItemId} {form : Form}
    (h : (ofServices s K).form? type = some form) :
    ∃ rule own, (ofServices s K).catalog.get? type = some rule ∧ Form.DescribesType s.config type rule own ∧
      form = own.along ((ofServices s K).common rule) := by
  simp only [form?, Option.bind_eq_bind, Option.bind_eq_some_iff, Option.pure_def, Option.some.injEq] at h
  obtain ⟨rule, hrule, own, hown, rfl⟩ := h
  have hrel := @SortedMap.rel_get?_ofList _ _ _ _ _ _ (Form.DescribesType s.config) _ _
    (Form.entries_describe s.config) type
  change (Catalog.ofTypes s.config.constraintTypes).get? type = some rule at hrule
  change (SortedMap.ofList (Form.entries s.config)).get? type = some own at hown
  change Option.Rel _ ((Catalog.ofTypes s.config.constraintTypes).get? type) _ at hrel
  rw [hrule, hown] at hrel
  cases hrel with
  | some hdescribes => exact ⟨rule, own, hrule, hdescribes, rfl⟩

/-- Another constraint of the type, in which all that was reported is mended, and no more. -/
structure Mends (a : Auditor) (form : Form) (c d : Constraint) : Prop where
  type : d.type = c.type
  mended : ∀ f ∈ form.demands c, (∃ e ∈ a.problems c, e.parameter? = some f.parameter) → f.Met d
  kept : ∀ p, (∀ e ∈ a.problems c, e.parameter? ≠ some p) → d.parameters.get? p = c.parameters.get? p

/-- A parameter is named exactly if a demand on it fails that the report comes to. Where it comes to all that fail,
nothing is left to report once they are mended. -/
theorem named_iff_reached {s : Services} {K : ConstraintSource} {c : Constraint} {form : Form}
    (hform : (ofServices s K).form? c.type = some form)
    (hkind : c.type = s.config.constraintTypes.range → Form.OneKind s.config c) :
    (∀ p, (∃ e ∈ (ofServices s K).problems c, e.parameter? = some p) ↔
      ∃ f ∈ form.demands c, form.reached c f ∧ ¬ f.Met c ∧ f.parameter = p) ∧
    ((∀ f ∈ form.demands c, ¬ f.Met c → form.reached c f) →
      ∀ d, (ofServices s K).Mends form c d →
        (d.type = s.config.constraintTypes.range → Form.OneKind s.config d) →
          (ofServices s K).problems d = []) := by
  obtain ⟨rule, own, hrule, hdescribes, rfl⟩ := describes_of_form hform
  let form := own.along ((ofServices s K).common rule)
  have hreports {d : Constraint} (hd : (ofServices s K).catalog.get? d.type = some rule)
      (hkind : c.type = s.config.constraintTypes.range → Form.OneKind s.config d) :
      Reports d ((ofServices s K).problems d) (form.reached d) := by
    simp only [problems, hd]
    exact common_reports.append (hdescribes.reports d hkind)
  refine ⟨fun p => ?_, fun hall d hmends hkind' => ?_⟩
  · constructor
    · rintro ⟨e, he, hname⟩
      obtain ⟨f, hf, hnot, hname'⟩ := (hreports hrule hkind).sound e he
      exact ⟨f, form.mem_of_reached c f hf, hf, hnot, Option.some.inj (hname'.symm.trans hname)⟩
    · rintro ⟨f, -, hf, hnot, rfl⟩
      exact (hreports hrule hkind).complete f hf hnot
  · have hmet : ∀ f ∈ form.demands c, f.Met d := by
      intro f hf
      by_cases hnamed : ∃ e ∈ (ofServices s K).problems c, e.parameter? = some f.parameter
      · exact hmends.mended f hf hnamed
      · have hkept := hmends.kept f.parameter fun e he hname => hnamed ⟨e, he, hname⟩
        rw [f.met_congr hkept]
        by_contra hnot
        exact hnamed ((hreports hrule hkind).complete f (hall f hf hnot) hnot)
    have hown : ∀ f ∈ own.demands c, f.Met d := fun f hf =>
      hmet f (List.mem_append_right _ hf)
    have hsame : form.demands d = form.demands c := by
      rw [hmends.type] at hkind'
      exact congrArg (_ ++ ·) (hdescribes.lasting c d hkind' hown)
    have hrule' : (ofServices s K).catalog.get? d.type = some rule := hmends.type ▸ hrule
    refine (hreports hrule' (hmends.type ▸ hkind')).eq_nil fun f hf => hmet f ?_
    exact hsame ▸ form.mem_of_reached d f hf

end Auditor

namespace Sample

def unclassed : Constraint where
  id := "P50$1"
  property := ⟨50⟩
  type := ⟨21503250⟩
  parameters := .ofSnaks [.value ⟨2309⟩ (.string "is a"), .someValue ⟨2316⟩]

def classed : Constraint :=
  let snaks := [.value ⟨2308⟩ (.entity (.item ⟨5⟩)), .value ⟨2309⟩ (.entity (.item ⟨21503252⟩))]
  { unclassed with parameters := .ofSnaks snaks }

def classForm : Form :=
  (Form.fixed [.classes {}, .relation {}]).along [.scope {} Rule.everywhere, .exceptions {}, .weight {}]

def unbounded : Constraint where
  id := "P569$1"
  property := ⟨569⟩
  type := ⟨21510860⟩

def unboundedAbove : Constraint :=
  { unbounded with parameters := .ofSnaks [.value ⟨2313⟩ (.quantity { amount := 0 })] }

end Sample

lemma ParameterSnaks.get?_foldl_add {m : ParameterSnaks} {l : List Snak} {p : PropertyId}
    (h : ∀ s ∈ l, s.property ≠ p) : (l.foldl add m).get? p = m.get? p := by
  induction l generalizing m with
  | nil => rfl
  | cons s l ih =>
    rw [List.foldl_cons, ih fun t ht => h t (List.mem_cons_of_mem _ ht), add, SortedMap.get?_alter,
      if_neg (h s List.mem_cons_self)]

namespace Auditor

open Sample

lemma classed_met : ∀ f ∈ classForm.demands classed, f.Met classed := by
  have hroles := @roles_reads (ofServices (lookingAt []) fun _ => []) Rule.typeOf classed
  simp only [classForm, Form.along, Form.fixed, List.cons_append, List.nil_append, List.forall_mem_cons]
  exact ⟨hroles.of_ok rfl, exceptions_reads.of_ok rfl, weight_reads.of_ok rfl, classes_reads.of_ok rfl,
    relation_reads.of_ok rfl, nofun⟩

theorem unclassed_named :
    let a := ofServices (lookingAt []) fun _ => []
    a.form? unclassed.type = some classForm ∧
      (∀ p, p ∈ [⟨2316⟩, ⟨2308⟩, ⟨2309⟩] ↔ ∃ f ∈ classForm.demands unclassed, classForm.reached unclassed f ∧
        ¬ f.Met unclassed ∧ f.parameter = p) ∧
      (a.problems unclassed).map (·.parameter?) = [some ⟨2316⟩, some ⟨2308⟩, some ⟨2309⟩] ∧
        a.Mends classForm unclassed classed ∧ a.problems classed = [] := by
  have hnames : ((ofServices (lookingAt []) fun _ => []).problems unclassed).map (·.parameter?) =
    [some ⟨2316⟩, some ⟨2308⟩, some ⟨2309⟩] := by decide
  have hform : (ofServices (lookingAt []) fun _ => []).form? unclassed.type = some classForm := rfl
  obtain ⟨hnamed, hmended⟩ := named_iff_reached hform fun hrange => absurd hrange (by decide)
  have hmends : (ofServices (lookingAt []) fun _ => []).Mends classForm unclassed classed := by
    refine ⟨rfl, fun f hf _ => classed_met f hf, fun p hp => ?_⟩
    have hnot : some p ∉ [some (PropertyId.mk 2316), some ⟨2308⟩, some ⟨2309⟩] := by
      rw [← hnames, List.mem_map]
      exact fun ⟨e, he, hname⟩ => hp e he hname
    simp only [List.mem_cons, Option.some.injEq, List.not_mem_nil, or_false, not_or] at hnot
    obtain ⟨hstatus, hclass, hrelation⟩ := hnot
    have hbefore : unclassed.parameters.get? p = none :=
      ParameterSnaks.get?_foldl_add (by simpa [Snak.property, eq_comm] using ⟨hrelation, hstatus⟩)
    have hafter : classed.parameters.get? p = none :=
      ParameterSnaks.get?_foldl_add (by simpa [Snak.property, eq_comm] using ⟨hclass, hrelation⟩)
    rw [hbefore, hafter]
  refine ⟨hform, fun p => ?_, hnames, hmends, hmended ?_ classed hmends fun hrange => absurd hrange (by decide)⟩
  · rw [← hnamed p, ← List.mem_map, hnames]
    simp
  · intro f hf _
    exact List.mem_append.mp hf

theorem upper_end_unnamed :
    let a := ofServices (lookingAt []) fun _ => []
    (∃ form, a.form? unbounded.type = some form ∧ ∃ f ∈ form.demands unbounded, ¬ f.Met unbounded ∧
      ∀ e ∈ a.problems unbounded, e.parameter? ≠ some f.parameter) ∧
    Form.OneKind a.config unbounded ∧ a.problems unbounded = [.missing ⟨2313⟩] ∧
      a.problems unboundedAbove = [.missing ⟨2312⟩] := by
  have hproblems : (ofServices (lookingAt []) fun _ => []).problems unbounded = [.missing ⟨2313⟩] := by
    decide
  refine ⟨⟨_, rfl, Demand.bound [Snak.isQuantityEnd] ⟨2312⟩, ?_, ?_, ?_⟩, ?_, hproblems, by decide⟩
  · exact List.mem_append_right _ (List.mem_cons_of_mem _ List.mem_cons_self)
  · exact fun hmet => hmet.required rfl rfl
  · rw [hproblems]
    decide
  · exact fun hboth => Bool.noConfusion hboth.1

end Auditor

end EntityAudit
