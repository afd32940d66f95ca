import EntityAudit.Proofs.Rule.Trace

/-!
What rules come to: compliance, a violation, or that the case is not checked. Where a rule finds that the
parameters are wrong, the error is among those that are reported without a snak. Only the rule about
ranges chooses by the value which parameters it reads.
-/

namespace EntityAudit

lemma bind_eq_ok_iff {ε α β : Type} {x : Except ε α} {f : α → Except ε β} {b : β} :
    x >>= f = .ok b ↔ ∃ a, x = .ok a ∧ f a = .ok b := by
  constructor
  · intro h
    cases x with
    | error e => cases h
    | ok a => exact ⟨a, rfl, h⟩
  · rintro ⟨a, rfl, h⟩
    exact h

def Ends {ε α : Type} (bad : ε → Prop) (good : α → Prop) : Except ε α → Prop
  | .ok a => good a
  | .error e => bad e

namespace Ends

variable {ε α β : Type} {bad : ε → Prop} {good : β → Prop}

lemma bind {mid : α → Prop} {x : Except ε α} {f : α → Except ε β} (hx : Ends bad mid x)
    (hf : ∀ a, mid a → Ends bad good (f a)) : Ends bad good (x >>= f) := by
  cases x with
  | error e => exact hx
  | ok a => exact hf a hx

lemma of_ok {x : Except ε β} {b : β} (h : Ends bad good x) (hx : x = .ok b) : good b := by
  rw [hx] at h
  exact h

lemma of_error {x : Except ε β} {e : ε} (h : Ends bad good x) (hx : x = .error e) : bad e := by
  rw [hx] at h
  exact h

end Ends

namespace Verdict

abbrev Settles (x : Except Verdict Verdict) : Prop := Ends IsPlain IsPlain x

lemma isPlain_settle {x : Except Verdict Verdict} (h : Settles x) : (settle x).IsPlain := by
  cases x with
  | ok v => exact h
  | error v => exact h

end Verdict

namespace Context

variable {context : Context}

@[simp] lemma isPlain_mismatch (expected : String) (v : Value) : (context.mismatch expected v).IsPlain :=
  Verdict.isPlain_violation _

lemma requireValue_ends : Ends Verdict.IsPlain (fun _ => True) context.requireValue := by
  unfold requireValue
  cases context.snak.value? with
  | none => exact Verdict.isPlain_violation _
  | some v => trivial

lemma requireEntity_ends : Ends Verdict.IsPlain (fun _ => True) context.requireEntity := by
  apply requireValue_ends.bind
  intro v _
  cases v with
  | entity id => trivial
  | _ => exact isPlain_mismatch _ _

lemma requireNoOtherValue_ends : Ends Verdict.IsPlain (fun _ => True) context.requireNoOtherValue := by
  unfold requireNoOtherValue
  split
  · trivial
  · trivial
  · exact isPlain_mismatch _ _

lemma requireQuantity_ends : Ends Verdict.IsPlain (fun _ => True) context.requireQuantity := by
  unfold requireQuantity
  split
  · trivial
  · exact isPlain_mismatch _ _
  · exact Verdict.isPlain_compliance

end Context

namespace Rule

abbrev Foreseen (problems : List ParameterError) (x : Except ParameterError Verdict) : Prop :=
  Ends (· ∈ problems) Verdict.IsPlain x

def Foresees (rule : Rule) : Prop :=
  ∀ s context c, Foreseen (rule.problems s.config c) (rule.verdict s context c)

variable {s : Services} {context : Context} {c : Constraint}

lemma read_ends {α : Type} {x : Parameters.Read α} {problems : List ParameterError}
    (h : problem x ⊆ problems) : Ends (· ∈ problems) (fun a => x = .ok a) x := by
  cases x with
  | ok a => rfl
  | error e => exact h List.mem_cons_self

lemma foreseen_of_read {α : Type} {x : Parameters.Read α} {f : α → Verdict}
    (h : ∀ a, (f a).IsPlain) : Foreseen (problem x) (x >>= fun a => .ok (f a)) :=
  (read_ends (List.Subset.refl _)).bind fun a _ => h a

lemma foreseen_of_reads {α β : Type} {x : Parameters.Read α} {y : Parameters.Read β} {f : α → β → Verdict}
    (h : ∀ a b, (f a b).IsPlain) :
    Foreseen (problem x ++ problem y) (x >>= fun a => y >>= fun b => .ok (f a b)) := by
  apply (read_ends (List.subset_append_left _ _)).bind
  intro a _
  exact (read_ends (List.subset_append_right _ _)).bind fun b _ => h a b

section Statements

lemma isPlain_onTarget {f : EntityId → Entity → Verdict} (h : ∀ target e, (f target e).IsPlain) :
    (onTarget s context c f).IsPlain := by
  cases htarget : context.requireEntity with
  | error v =>
    rw [onTarget_of_error htarget]
    exact Context.requireEntity_ends.of_error htarget
  | ok target =>
    rw [onTarget_of_ok htarget]
    cases s.find? target with
    | none => exact Verdict.isPlain_violation (.entityMustExist c.property target)
    | some e => exact h target e

lemma conflictsWith_foresees : conflictsWith.Foresees := by
  intro s context c
  apply foreseen_of_reads
  intro p choices
  exact Verdict.isPlain_of _ _

lemma item_foresees : item.Foresees := by
  intro s context c
  apply foreseen_of_reads
  intro p choices
  exact Verdict.isPlain_of _ _

lemma targetRequiredClaim_foresees : targetRequiredClaim.Foresees := by
  intro s context c
  apply foreseen_of_reads
  intro p choices
  exact isPlain_onTarget fun _ _ => Verdict.isPlain_of _ _

lemma isPlain_backReference (p : PropertyId) (key : String) : (backReference s context c p key).IsPlain :=
  isPlain_onTarget fun _ _ => Verdict.isPlain_of _ _

lemma symmetric_foresees : symmetric.Foresees := fun _ _ _ => isPlain_backReference _ _

lemma inverse_foresees : inverse.Foresees := by
  intro s context c
  apply foreseen_of_read
  intro p
  exact isPlain_backReference _ _

end Statements

section Placement

lemma qualifier_foresees : qualifier.Foresees := fun _ _ _ => Verdict.isPlain_violation _

lemma reference_foresees : reference.Foresees := fun _ _ _ => Verdict.isPlain_of _ _

lemma propertyScope_foresees : propertyScope.Foresees := by
  intro s context c
  apply foreseen_of_read
  intro allowed
  exact Verdict.isPlain_of _ _

lemma allowedEntityTypes_foresees : allowedEntityTypes.Foresees := by
  intro s context c
  apply foreseen_of_read
  intro allowed
  exact Verdict.isPlain_of _ _

lemma qualifiers_foresees : qualifiers.Foresees := by
  intro s context c
  apply foreseen_of_read
  intro allowed
  rw [Verdict.isPlain_withParameter]
  split
  · exact Verdict.isPlain_compliance
  · exact Verdict.isPlain_violation _

lemma mandatoryQualifiers_foresees : mandatoryQualifiers.Foresees := by
  intro s context c
  apply foreseen_of_read
  intro required
  exact Verdict.isPlain_of _ _

end Placement

section Classes

lemma typeOf_foresees : typeOf.Foresees := by
  intro s context c
  apply foreseen_of_reads
  intro classes relation
  exact isPlain_belongs _ _ _ _

lemma valueType_foresees : valueType.Foresees := by
  intro s context c
  rw [verdict_valueType]
  apply foreseen_of_reads
  intro classes relation
  exact isPlain_onTarget fun _ _ => isPlain_belongs _ _ _ _

end Classes

section Cardinality

lemma onCount_foresees (support : Role → Support) (roles : List Role)
    (count : Context → List PropertyId → Nat) (allowed : Nat → Bool)
    (message : PropertyId → Nat → Message) : (onCount support roles count allowed message).Foresees := by
  intro s context c
  apply foreseen_of_read
  intro separators
  exact Verdict.isPlain_of _ _

lemma singleValue_foresees : singleValue.Foresees := onCount_foresees _ _ _ _ _

lemma multiValue_foresees : multiValue.Foresees := onCount_foresees _ _ _ _ _

lemma singleBestValue_foresees : singleBestValue.Foresees := onCount_foresees _ _ _ _ _

lemma uniqueValue_foresees : uniqueValue.Foresees := by
  intro s context c
  change Verdict.IsPlain _
  split
  · exact Verdict.isPlain_todo
  · split
    · exact Verdict.isPlain_compliance
    · split
      · exact Verdict.isPlain_of _ _
      · exact Verdict.isPlain_violation _

end Cardinality

section Values

lemma oneOf_foresees : oneOf.Foresees := by
  intro s context c
  apply foreseen_of_read
  intro choices
  apply Verdict.isPlain_settle
  apply Context.requireNoOtherValue_ends.bind
  intro _ _
  exact Verdict.isPlain_of _ _

lemma noneOf_foresees : noneOf.Foresees := by
  intro s context c
  apply foreseen_of_read
  intro choices
  apply Verdict.isPlain_settle
  apply Context.requireNoOtherValue_ends.bind
  intro _ _
  change Verdict.IsPlain _
  rw [Verdict.isPlain_withParameter]
  split
  · exact Verdict.isPlain_compliance
  · exact Verdict.isPlain_violation _

lemma integer_foresees : integer.Foresees := by
  intro s context c
  apply Verdict.isPlain_settle
  apply Context.requireQuantity_ends.bind
  intro q _
  exact Verdict.isPlain_of _ _

lemma noBounds_foresees : noBounds.Foresees := by
  intro s context c
  apply Verdict.isPlain_settle
  apply Context.requireQuantity_ends.bind
  intro q _
  exact Verdict.isPlain_of _ _

lemma allowedUnits_foresees : allowedUnits.Foresees := by
  intro s context c
  apply foreseen_of_read
  intro allowed
  apply Verdict.isPlain_settle
  apply Context.requireQuantity_ends.bind
  intro q _
  exact Verdict.isPlain_of _ _

end Values

section Texts

lemma format_foresees : format.Foresees := by
  intro s context c
  -- a pattern is compiled only if it can be read, so the report has the first of both problems
  change Foreseen (problem (Parameters.format s.config c >>= Parameters.regex .usual s.config)) _
  apply Ends.bind (read_ends ?_)
  · intro pattern hpattern
    rw [hpattern]
    apply Ends.bind (read_ends (List.Subset.refl _))
    intro regex _
    apply Verdict.isPlain_settle
    apply Context.requireValue_ends.bind
    intro v _
    cases v with
    | string text => exact Verdict.isPlain_of _ _
    | monolingual t => exact Verdict.isPlain_of _ _
    | _ => exact Context.isPlain_mismatch _ _
  · cases Parameters.format s.config c with
    | error e => exact List.Subset.refl _
    | ok pattern => exact List.nil_subset _

lemma commonsLink_foresees : commonsLink.Foresees := by
  intro s context c
  apply foreseen_of_read
  intro pageNamespace
  apply Verdict.isPlain_settle
  apply Context.requireValue_ends.bind
  intro v _
  cases v with
  | string text =>
    simp only [pure_bind]
    split
    · exact Verdict.isPlain_violation (.malformedLink text)
    · split
      · change Verdict.IsPlain _
        rw [Verdict.isPlain_withParameter]
        split
        · exact Verdict.isPlain_compliance
        · exact Verdict.isPlain_violation _
        · exact Verdict.isPlain_violation _
      · exact Verdict.isPlain_todo
  | _ => exact Context.isPlain_mismatch _ _

end Texts

section Ranges

lemma problem_difference_subset (config : Config) (c : Constraint) :
    problem (Parameters.difference config c) ⊆ diffWithinRange.problems config c := by
  intro e he
  -- the property is read by both parts of the report; only the first of them lists a problem with it
  cases hproperty : Parameters.property config c with
  | error e' =>
    have hdifference : Parameters.difference config c = .error e' := by
      unfold Parameters.difference
      rw [hproperty]
      rfl
    rw [hdifference] at he
    exact List.mem_append_left _ (by rwa [hproperty])
  | ok p =>
    refine List.mem_append_right _ (List.mem_filter.mpr ⟨?_, ?_⟩)
    · cases hrange : Parameters.quantityRange config c with
      | ok r => exact he
      | error e' =>
        have hdifference : Parameters.difference config c = .error e' := by
          unfold Parameters.difference
          rw [hproperty, hrange]
          rfl
        rwa [hdifference] at he
    · rw [hproperty]
      rfl

lemma diffWithinRange_foresees : diffWithinRange.Foresees := by
  intro s context c
  apply Ends.bind (read_ends (problem_difference_subset s.config c))
  rintro ⟨p, minimum, maximum⟩ -
  apply Verdict.isPlain_settle
  apply Context.requireValue_ends.bind
  intro v _
  dsimp only
  split
  · exact Context.isPlain_mismatch _ _
  · split
    · split
      · exact Verdict.isPlain_violation _
      · split
        · exact Verdict.isPlain_of _ _
        · exact Verdict.isPlain_violation _
    · exact Verdict.isPlain_violation _

/-- The constraint gives no end of the kind that the value has. -/
def LacksEnds (config : Config) (c : Constraint) : Value → Prop
  | .quantity _ => Parameters.isGiven c config.parameters.minimumQuantity = false ∧
      Parameters.isGiven c config.parameters.maximumQuantity = false
  | .time _ => Parameters.isGiven c config.parameters.minimumDate = false ∧
      Parameters.isGiven c config.parameters.maximumDate = false
  | _ => False

lemma range_of_not_given {minimum maximum : PropertyId}
    {bound : PropertyId → Snak → Parameters.Read (Option Bound)} (h : Parameters.isGiven c minimum = false) :
    Parameters.range c minimum maximum bound = .error (.missing minimum) := by
  have hnone : c.parameters.get? minimum = none :=
    Option.isNone_iff_eq_none.mp (Option.isSome_eq_false_iff.mp h)
  have hof : c.parameters.of minimum = [] := congrArg (·.getD []) hnone
  unfold Parameters.range Parameters.single
  rw [hof]
  rfl

lemma problem_eq_nil_iff {α : Type} {x : Parameters.Read α} : problem x = [] ↔ ∃ a, x = .ok a := by
  cases x with
  | ok a => exact iff_of_true rfl ⟨a, rfl⟩
  | error e => exact iff_of_false (List.cons_ne_nil _ _) (by rintro ⟨a, ha⟩; cases ha)

lemma range_problems_eq_nil (h : range.problems s.config c = []) :
    (∃ r, Parameters.quantityRange s.config c = .ok r) ∧ (∀ t, LacksEnds s.config c (.time t)) ∨
      (∃ r, Parameters.dateRange s.config c = .ok r) ∧ ∀ q, LacksEnds s.config c (.quantity q) := by
  simp only [range] at h
  split at h
  · cases h
  · rename_i hboth
    split at h
    · rename_i hdates
      refine .inr ⟨problem_eq_nil_iff.mp h, fun q => ?_⟩
      simpa [LacksEnds, hdates] using hboth
    · rename_i hdates
      refine .inl ⟨problem_eq_nil_iff.mp h, fun t => ?_⟩
      simpa [LacksEnds] using hdates

lemma isPlain_of_range {v : Verdict} (h : range.verdict s context c = .ok v) : v.IsPlain := by
  have hends : Ends (fun _ => True) Verdict.IsPlain (range.verdict s context c) := by
    have hread : ∀ x : Parameters.Read Range, Ends (fun _ => True) (fun _ => True) x := by
      rintro (e | r)
      · trivial
      · trivial
    simp only [range, Context.requireValue]
    cases context.snak.value? with
    | none => exact Verdict.isPlain_violation _
    | some v =>
      cases v with
      | quantity q => exact (hread _).bind fun r _ => isPlain_range r _ _
      | time t => exact (hread _).bind fun r _ => isPlain_range r _ _
      | _ => exact Context.isPlain_mismatch _ _
  exact hends.of_ok h

lemma range_error_iff (h : range.problems s.config c = []) :
    (∃ e, range.verdict s context c = .error e) ↔
      ∃ v, context.snak.value? = some v ∧ LacksEnds s.config c v := by
  simp only [range, Context.requireValue]
  constructor
  · rintro ⟨e, he⟩
    cases hv : context.snak.value? with
    | none =>
      rw [hv] at he
      cases he
    | some v =>
      refine ⟨v, rfl, ?_⟩
      rw [hv] at he
      cases v with
      | quantity q =>
        rcases range_problems_eq_nil h with ⟨⟨r, hr⟩, -⟩ | ⟨-, hlacks⟩
        · dsimp only at he
          rw [hr] at he
          cases he
        · exact hlacks q
      | time t =>
        rcases range_problems_eq_nil h with ⟨-, hlacks⟩ | ⟨⟨r, hr⟩, -⟩
        · exact hlacks t
        · dsimp only at he
          rw [hr] at he
          cases he
      | _ => cases he
  · rintro ⟨v, hv, hlacks⟩
    rw [hv]
    cases v with
    | quantity q =>
      dsimp only [Parameters.quantityRange]
      rw [range_of_not_given hlacks.1]
      exact ⟨_, rfl⟩
    | time t =>
      dsimp only [Parameters.dateRange]
      rw [range_of_not_given hlacks.1]
      exact ⟨_, rfl⟩
    | _ => exact hlacks.elim

end Ranges

end Rule

namespace Catalog

variable {types : ConstraintTypes} {type : ItemId} {rule : Rule}

lemma foresees_or_eq_range {entry : ItemId × Rule} (h : entry ∈ entries types) :
    entry.2.Foresees ∨ entry.2 = Rule.range := by
  simp only [entries, List.mem_cons, List.not_mem_nil, or_false] at h
  rcases h with rfl | rfl | rfl | rfl | rfl | rfl | rfl | rfl | rfl | rfl | rfl | rfl | rfl | rfl |
    rfl | rfl | rfl | rfl | rfl | rfl | rfl | rfl | rfl | rfl | rfl | rfl
  · exact .inl Rule.conflictsWith_foresees
  · exact .inl Rule.item_foresees
  · exact .inl Rule.targetRequiredClaim_foresees
  · exact .inl Rule.symmetric_foresees
  · exact .inl Rule.inverse_foresees
  · exact .inl Rule.qualifier_foresees
  · exact .inl Rule.qualifiers_foresees
  · exact .inl Rule.mandatoryQualifiers_foresees
  · exact .inr rfl
  · exact .inl Rule.diffWithinRange_foresees
  · exact .inl Rule.typeOf_foresees
  · exact .inl Rule.valueType_foresees
  · exact .inl Rule.singleValue_foresees
  · exact .inl Rule.multiValue_foresees
  · exact .inl Rule.uniqueValue_foresees
  · exact .inl Rule.format_foresees
  · exact .inl Rule.commonsLink_foresees
  · exact .inl Rule.oneOf_foresees
  · exact .inl Rule.reference_foresees
  · exact .inl Rule.noneOf_foresees
  · exact .inl Rule.singleBestValue_foresees
  · exact .inl Rule.integer_foresees
  · exact .inl Rule.noBounds_foresees
  · exact .inl Rule.allowedUnits_foresees
  · exact .inl Rule.allowedEntityTypes_foresees
  · exact .inl Rule.propertyScope_foresees

lemma foresees_of_get? (h : (ofTypes types).get? type = some rule) : rule.Foresees ∨ rule = Rule.range :=
  foresees_or_eq_range (SortedMap.mem_of_get?_ofList h)

lemma isPlain_of_get? {s : Services} {context : Context} {c : Constraint} {v : Verdict}
    (h : (ofTypes types).get? type = some rule) (hv : rule.verdict s context c = .ok v) : v.IsPlain := by
  rcases foresees_of_get? h with hforesees | rfl
  · exact (hforesees s context c).of_ok hv
  · exact Rule.isPlain_of_range hv

lemma support_of_mem_roles {role : Role} (h : (ofTypes types).get? type = some rule)
    (hrole : role ∈ rule.roles) : rule.support role ≠ .notSupported := by
  have hall : ∀ entry ∈ entries types, ∀ role ∈ entry.2.roles, entry.2.support role ≠ .notSupported := by
    simp only [entries, List.forall_mem_cons]
    and_intros
    all_goals decide
  exact hall _ (SortedMap.mem_of_get?_ofList h) role hrole

end Catalog

end EntityAudit
