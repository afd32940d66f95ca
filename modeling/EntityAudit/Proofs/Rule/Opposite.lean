import EntityAudit.Proofs.Outcome

namespace EntityAudit

inductive Opposed : Except ParameterError Verdict → Except ParameterError Verdict → Prop
  | error (e : ParameterError) : Opposed (.error e) (.error e)
  | first {v w : Verdict} (hv : v.status = .compliance) (hw : w.status = .violation) : Opposed (.ok v) (.ok w)
  | second {v w : Verdict} (hv : v.status = .violation) (hw : w.status = .compliance) : Opposed (.ok v) (.ok w)

namespace Opposed

lemma symm {x y : Except ParameterError Verdict} (h : Opposed x y) : Opposed y x := by
  cases h with
  | error e => exact .error e
  | first hv hw => exact .second hw hv
  | second hv hw => exact .first hw hv

lemma bind {α : Type} (x : Parameters.Read α) {f g : α → Except ParameterError Verdict}
    (h : ∀ a, Opposed (f a) (g a)) : Opposed (x >>= f) (x >>= g) := by
  cases x with
  | error e => exact .error e
  | ok a => exact h a

lemma of_condition {v w : Verdict} (b : Bool) (hv : v.status = if b then .compliance else .violation)
    (hw : w.status = if b then .violation else .compliance) : Opposed (.ok v) (.ok w) := by
  cases b with
  | true => exact .first hv hw
  | false => exact .second hv hw

end Opposed

lemma Verdict.status_of (b : Bool) (m : Message) : (of b m).status = if b then .compliance else .violation := by
  cases b with
  | true => rfl
  | false => rfl

namespace Rule

variable {s : Services} {context : Context} {c d : Constraint}

lemma connections_opposed (h : d.parameters = c.parameters) :
    Opposed (item.verdict s context c) (conflictsWith.verdict s context d) := by
  obtain ⟨_, _, _, _, _⟩ := c
  obtain ⟨_, _, _, _, _⟩ := d
  obtain rfl := h
  refine .bind _ fun p => .bind _ fun choices =>
    .of_condition (context.entity.statements.hasConnection p choices) (Verdict.status_of _ _) ?_
  refine (Verdict.status_of _ _).trans ?_
  cases context.entity.statements.hasConnection p choices <;> rfl

lemma counts_opposed (h : d.parameters = c.parameters) :
    Opposed (singleValue.verdict s context c) (multiValue.verdict s context d) := by
  obtain ⟨_, _, _, _, _⟩ := c
  obtain ⟨_, _, _, _, _⟩ := d
  obtain rfl := h
  refine .bind _ fun separators =>
    .of_condition (context.valueCount separators ≤ 1) (Verdict.status_of _ _) ?_
  refine (Verdict.status_of _ _).trans ?_
  by_cases h : context.valueCount separators ≤ 1
  · simp [h]
  · simp [h, Nat.lt_of_not_le h]

lemma requireNoOtherValue_of_other {v : Value} (hv : context.snak.value? = some v) (h : v.entity? = none) :
    context.requireNoOtherValue = .error (context.mismatch "wikibase-entityid" v) := by
  rw [Context.requireNoOtherValue, hv]
  cases v with
  | entity id => cases h
  | _ => rfl

lemma requireNoOtherValue_of_not_other (h : ∀ v, context.snak.value? = some v → v.entity? ≠ none) :
    context.requireNoOtherValue = .ok () := by
  rw [Context.requireNoOtherValue]
  cases hv : context.snak.value? with
  | none => rfl
  | some v =>
    cases v with
    | entity id => rfl
    | _ => exact absurd rfl (h _ hv)

lemma someItems_congr (config : Config) (h : d.parameters = c.parameters) :
    Parameters.someItems config d = Parameters.someItems config c := by
  simp only [Parameters.someItems, Parameters.items, h]

lemma choices_opposed (h : d.parameters = c.parameters)
    (hvalue : ∀ v, context.snak.value? = some v → v.entity? ≠ none) :
    Opposed (oneOf.verdict s context c) (noneOf.verdict s context d) := by
  simp only [oneOf, noneOf, someItems_congr s.config h, requireNoOtherValue_of_not_other hvalue]
  refine .bind _ fun choices =>
    .of_condition (choices.any (ItemChoice.describes · context.snak)) (Verdict.status_of _ _) ?_
  rw [← List.isSome_find?]
  cases choices.find? (ItemChoice.describes · context.snak) with
  | none => rfl
  | some choice => rfl

lemma choices_mismatched (h : d.parameters = c.parameters) {v : Value} (hv : context.snak.value? = some v)
    (hother : v.entity? = none) :
    let mismatched := (Parameters.someItems s.config c).map fun _ =>
      Verdict.violation (.valueTypeMismatch context.property "wikibase-entityid" v.kind)
    oneOf.verdict s context c = mismatched ∧ noneOf.verdict s context d = mismatched := by
  simp only [oneOf, noneOf, someItems_congr s.config h, requireNoOtherValue_of_other hv hother]
  cases Parameters.someItems s.config c with
  | error e => exact ⟨rfl, rfl⟩
  | ok choices => exact ⟨rfl, rfl⟩

/-- Of two rules that ask for opposite things exactly one is complied with, unless the parameters are wrong for both
or both need an entity that the value is not. -/
theorem duals_opposed (s : Services) (context : Context) (c d : Constraint) (h : d.parameters = c.parameters) :
    Opposed (conflictsWith.verdict s context c) (item.verdict s context d) ∧
    Opposed (singleValue.verdict s context c) (multiValue.verdict s context d) ∧
    ((∀ v, context.snak.value? = some v → v.entity? ≠ none) →
      Opposed (oneOf.verdict s context c) (noneOf.verdict s context d)) ∧
    ∀ v, context.snak.value? = some v → v.entity? = none →
      let mismatched := (Parameters.someItems s.config c).map fun _ =>
        Verdict.violation (.valueTypeMismatch context.property "wikibase-entityid" v.kind)
      oneOf.verdict s context c = mismatched ∧ noneOf.verdict s context d = mismatched :=
  ⟨(connections_opposed h.symm).symm, counts_opposed h, choices_opposed h, fun _ => choices_mismatched h⟩

end Rule

namespace Rule

open Sample

theorem duals_of_marriage :
    let c : Constraint := { id := "P26$2", property := spouse, type := ⟨21510859⟩, parameters := .ofSnaks [
      .value ⟨2305⟩ (.entity (.item ⟨2⟩)), .value ⟨2305⟩ (.entity (.item ⟨3⟩))] }
    let d : Constraint := { c with id := "P26$3", type := ⟨52558054⟩ }
    let named : Context := { context with place := .qualifier (.value spouse (.string "Q2")) }
    let mismatched := Verdict.violation (.valueTypeMismatch spouse "wikibase-entityid" "string")
    Opposed (oneOf.verdict (lookingAt []) context c) (noneOf.verdict (lookingAt []) context d) ∧
      oneOf.verdict (lookingAt []) named c = .ok mismatched ∧
      noneOf.verdict (lookingAt []) named d = .ok mismatched := by
  intro c d named mismatched
  obtain ⟨-, -, hopposed, -⟩ := duals_opposed (lookingAt []) context c d rfl
  obtain ⟨-, -, -, hmismatched⟩ := duals_opposed (lookingAt []) named c d rfl
  obtain ⟨hone, hnone⟩ := hmismatched (.string "Q2") rfl rfl
  refine ⟨hopposed ?_, hone.trans rfl, hnone.trans rfl⟩
  intro v hv
  obtain rfl : Value.entity (.item ⟨2⟩) = v := Option.some.inj hv
  exact Option.some_ne_none _

end Rule

end EntityAudit
