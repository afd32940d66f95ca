import EntityAudit.Proofs.Outcome
import EntityAudit.Proofs.Reordered.Counts
import EntityAudit.Proofs.Rule.Opposite

/-!
Verdicts of rules after statements and parameters have been put in another order. Texts name things in the order in
which they are given, so that only the status stays. The rule about differences compares with the first value of a
property, and is left out where statements are moved.
-/

namespace EntityAudit

namespace Verdict

abbrev SameStatus (v w : Verdict) : Prop := w.status = v.status

variable {v w : Verdict}

lemma SameStatus.withParameter (h : v.SameStatus w) (name : String) (values values' : List String) :
    (v.withParameter name values).SameStatus (w.withParameter name values') := h

lemma SameStatus.withMetadata (h : v.SameStatus w) (m m' : Metadata) :
    (v.withMetadata m).SameStatus (w.withMetadata m') := h

lemma sameStatus_of {b b' : Bool} (h : b' = b) (m m' : Message) : (of b m).SameStatus (of b' m') := by
  rw [SameStatus, status_of, status_of, h]

lemma alike_self (x : Except ParameterError Verdict) : Alike SameStatus x x :=
  .refl (fun v => (rfl : v.status = v.status)) x

end Verdict

lemma find?_cases {α : Type} {l k : List α} (h : l.Perm k) (p : α → Bool) :
    l.find? p = none ∧ k.find? p = none ∨ ∃ a b, l.find? p = some a ∧ k.find? p = some b := by
  have hsome : (k.find? p).isSome = (l.find? p).isSome := by
    rw [List.isSome_find?, List.isSome_find?, h.any_eq]
  cases hl : l.find? p with
  | none => exact .inl ⟨rfl, by simpa [hl] using hsome⟩
  | some a => exact .inr ⟨a, (k.find? p).get (by simp [hsome, hl]), rfl, by simp⟩

namespace Rule

def IgnoresOrder (rule : Rule) : Prop :=
  ∀ (s : Services) (find? : EntityId → Option Entity) (graph : Option GraphQuery) (c : Context)
    (σ : Equiv.Perm ℕ) (f : Entity) (k : Constraint) (m : ParameterSnaks), Reorders s.find? find? →
    Option.Rel GraphQuery.Same s.graph graph → c.entity.MovedBy σ f → k.parameters.Permuted m →
      Alike Verdict.SameStatus (rule.verdict s c k)
        (rule.verdict { s with find? := find?, graph := graph } (c.moved σ f) (k.withParameters m))

variable {s : Services} {find? : EntityId → Option Entity} {graph : Option GraphQuery} {c : Context}
  {σ : Equiv.Perm ℕ} {f : Entity} {k : Constraint} {m : ParameterSnaks}

section Statements

lemma onTarget_sameStatus {g h : EntityId → Entity → Verdict} (hfind : Reorders s.find? find?)
    (hgh : ∀ target e e', e.Reordered e' → (g target e).SameStatus (h target e')) :
    (onTarget s c k g).SameStatus
      (onTarget { s with find? := find?, graph := graph } (c.moved σ f) (k.withParameters m) h) := by
  have hsame : (c.moved σ f).requireEntity = c.requireEntity := rfl
  cases hrequire : c.requireEntity with
  | error v => rw [onTarget_of_error hrequire, onTarget_of_error (hsame.trans hrequire)]
  | ok target =>
    rw [onTarget_of_ok hrequire, onTarget_of_ok (hsame.trans hrequire)]
    rcases rel_cases (hfind target) with ⟨hs, ht⟩ | ⟨e, e', hs, ht, he⟩
    · simp only [hs, ht]
      rfl
    · simp only [hs, ht]
      exact hgh target e e' he

lemma conflictsWith_ignoresOrder : conflictsWith.IgnoresOrder := by
  intro s find? graph c σ f k m _ _ hmoved hm
  refine (Parameters.property_alike hm).bind_eq fun p => (Parameters.items_alike hm).bind fun l l' hl => .ok ?_
  exact Verdict.sameStatus_of (congrArg (!·) (hmoved.reordered.hasConnection_eq p hl)) _ _

lemma item_ignoresOrder : item.IgnoresOrder := by
  intro s find? graph c σ f k m _ _ hmoved hm
  refine (Parameters.property_alike hm).bind_eq fun p => (Parameters.items_alike hm).bind fun l l' hl => .ok ?_
  exact Verdict.sameStatus_of (hmoved.reordered.hasConnection_eq p hl) _ _

lemma targetRequiredClaim_ignoresOrder : targetRequiredClaim.IgnoresOrder := by
  intro s find? graph c σ f k m hfind _ _ hm
  refine (Parameters.property_alike hm).bind_eq fun p => (Parameters.items_alike hm).bind fun l l' hl => .ok ?_
  exact onTarget_sameStatus hfind fun target e e' he => Verdict.sameStatus_of (he.hasConnection_eq p hl) _ _

lemma backReference_sameStatus (hfind : Reorders s.find? find?) (hmoved : c.entity.MovedBy σ f) (p : PropertyId)
    (key : String) : (backReference s c k p key).SameStatus
      (backReference { s with find? := find?, graph := graph } (c.moved σ f) (k.withParameters m) p key) := by
  apply onTarget_sameStatus hfind
  intro target e e' he
  have hid : (c.moved σ f).entity.id = c.entity.id := hmoved.id_eq
  apply Verdict.sameStatus_of
  rw [hid]
  exact he.firstReferring?_isSome_eq p c.entity.id

lemma symmetric_ignoresOrder : symmetric.IgnoresOrder := by
  intro s find? graph c σ f k m hfind _ hmoved _
  exact .ok (backReference_sameStatus hfind hmoved c.property "symmetric")

lemma inverse_ignoresOrder : inverse.IgnoresOrder := by
  intro s find? graph c σ f k m hfind _ hmoved hm
  exact (Parameters.property_alike hm).bind_eq fun p => .ok (backReference_sameStatus hfind hmoved p "inverse")

end Statements

section Placement

lemma qualifier_ignoresOrder : qualifier.IgnoresOrder := fun _ _ _ _ _ _ _ _ _ _ _ _ => .ok rfl

lemma reference_ignoresOrder : reference.IgnoresOrder := fun _ _ _ _ _ _ _ _ _ _ _ _ =>
  .ok (Verdict.sameStatus_of rfl _ _)

lemma propertyScope_ignoresOrder : propertyScope.IgnoresOrder := by
  intro s find? graph c σ f k m _ _ _ hm
  refine (Parameters.propertyScope_alike hm).bind fun l l' hl => .ok ?_
  exact Verdict.sameStatus_of hl.contains_eq.symm _ _

lemma allowedEntityTypes_ignoresOrder : allowedEntityTypes.IgnoresOrder := by
  intro s find? graph c σ f k m _ _ hmoved hm
  refine (Parameters.entityKinds_alike hm).bind fun l l' hl => .ok ?_
  have hkind : (c.moved σ f).entity.kind = c.entity.kind := congrArg EntityId.kind hmoved.id_eq
  apply Verdict.sameStatus_of
  rw [hkind, hl.contains_eq]

lemma qualifiers_ignoresOrder : qualifiers.IgnoresOrder := by
  intro s find? graph c σ f k m _ _ _ hm
  refine (Parameters.properties_alike hm).bind fun l l' hl => .ok ?_
  have hstatement : (c.moved σ f).statement = c.statement := rfl
  simp only [hstatement, hl.contains_eq]
  cases (c.statement.qualifiers.map (·.property)).find? (fun p => decide ¬l'.contains p = true) with
  | none => rfl
  | some p => rfl

lemma mandatoryQualifiers_ignoresOrder : mandatoryQualifiers.IgnoresOrder := by
  intro s find? graph c σ f k m _ _ _ hm
  refine (Parameters.someProperties_alike hm).bind fun l l' hl => .ok ?_
  exact Verdict.sameStatus_of (hl.filter _).isEmpty_eq.symm _ _

end Placement

section Classes

lemma belongs_sameStatus {e e' : Entity} {classes classes' : List ItemId} (hfind : Reorders s.find? find?)
    (hgraph : Option.Rel GraphQuery.Same s.graph graph) (he : e.Reordered e') (hclasses : classes.Perm classes')
    (relation : Relation) (key : String) : (belongs s e classes relation key).SameStatus
      (belongs { s with find? := find?, graph := graph } e' classes' relation key) := by
  have hsame : Membership.Same (Membership.check s.config s.find? classes s.graph e relation)
    (Membership.check s.config find? classes' graph e' relation) :=
    Membership.check_same hfind hgraph he hclasses relation
  unfold belongs
  dsimp only
  apply Verdict.SameStatus.withParameter
  apply Verdict.SameStatus.withParameter
  revert hsame
  generalize Membership.check s.config s.find? classes s.graph e relation = x
  generalize Membership.check s.config find? classes' graph e' relation = y
  intro hsame
  cases hsame with
  | known h => exact (Verdict.sameStatus_of h _ _).withMetadata _ _
  | unavailable => exact rfl
  | failed q q' => exact rfl

lemma typeOf_ignoresOrder : typeOf.IgnoresOrder := by
  intro s find? graph c σ f k m hfind hgraph hmoved hm
  refine (Parameters.classes_alike hm).bind fun l l' hl => (Parameters.relation_alike hm).bind_eq fun relation => ?_
  exact .ok (belongs_sameStatus hfind hgraph hmoved.reordered hl relation "type")

lemma valueType_ignoresOrder : valueType.IgnoresOrder := by
  intro s find? graph c σ f k m hfind hgraph _ hm
  rw [verdict_valueType, verdict_valueType]
  refine (Parameters.classes_alike hm).bind fun l l' hl => (Parameters.relation_alike hm).bind_eq fun relation => ?_
  refine .ok (onTarget_sameStatus hfind fun _ e e' he => ?_)
  exact belongs_sameStatus hfind hgraph he hl relation "value-type"

end Classes

section Cardinality

lemma onCount_ignoresOrder {support : Role → Support} {roles : List Role}
    {count : Context → List PropertyId → Nat} {allowed : Nat → Bool} {message : PropertyId → Nat → Message}
    (hcount : ∀ {c : Context} {σ : Equiv.Perm ℕ} {f : Entity} {l l' : List PropertyId}, c.entity.MovedBy σ f →
      l.Perm l' → count (c.moved σ f) l' = count c l) :
    (onCount support roles count allowed message).IgnoresOrder := by
  intro s find? graph c σ f k m _ _ hmoved hm
  refine (Parameters.separators_alike hm).bind fun l l' hl => .ok ?_
  exact Verdict.sameStatus_of (congrArg allowed (hcount hmoved hl)) _ _

lemma singleValue_ignoresOrder : singleValue.IgnoresOrder := onCount_ignoresOrder Context.valueCount_moved

lemma multiValue_ignoresOrder : multiValue.IgnoresOrder := onCount_ignoresOrder Context.valueCount_moved

lemma singleBestValue_ignoresOrder : singleBestValue.IgnoresOrder := onCount_ignoresOrder Context.bestCount_moved

lemma uniqueValue_ignoresOrder : uniqueValue.IgnoresOrder := by
  intro s find? graph c σ f k m _ hgraph hmoved _
  refine .ok ?_
  rcases rel_cases hgraph with ⟨hs, rfl⟩ | ⟨g, g', hs, rfl, hsame⟩
  · rw [hs]
  · -- which question is asked depends on the place, and that stays
    have hvalue : sameValue g' (c.moved σ f) = sameValue g c := by
      have hid : (c.moved σ f).entity.id = c.entity.id := hmoved.id_eq
      have hplace : (c.moved σ f).place = c.place := rfl
      unfold sameValue
      rw [hid, hplace]
      cases c.place with
      | mainSnak => exact hsame.sameStatement _ _
      | qualifier snak => exact hsame.sameQualifier _ _
      | reference r snak => exact hsame.sameReference _ _
    rw [hs]
    simp only [hvalue]
    exact rfl

end Cardinality

section Values

lemma oneOf_ignoresOrder : oneOf.IgnoresOrder := by
  intro s find? graph c σ f k m _ _ _ hm
  refine (Parameters.someItems_alike hm).bind fun l l' hl => .ok ?_
  have hrequire : (c.moved σ f).requireNoOtherValue = c.requireNoOtherValue := rfl
  rw [hrequire]
  cases c.requireNoOtherValue with
  | error v => rfl
  | ok _ => exact (Verdict.sameStatus_of hl.any_eq.symm _ _).withParameter _ _ _

lemma noneOf_ignoresOrder : noneOf.IgnoresOrder := by
  intro s find? graph c σ f k m _ _ _ hm
  refine (Parameters.someItems_alike hm).bind fun l l' hl => .ok ?_
  have hrequire : (c.moved σ f).requireNoOtherValue = c.requireNoOtherValue := rfl
  have hsnak : (c.moved σ f).snak = c.snak := rfl
  rw [hrequire, hsnak]
  cases c.requireNoOtherValue with
  | error v => rfl
  | ok _ =>
    rcases find?_cases hl (·.describes c.snak) with ⟨hfind, hfind'⟩ | ⟨choice, choice', hfind, hfind'⟩
    · rw [hfind, hfind']
      rfl
    · rw [hfind, hfind']
      rfl

lemma integer_ignoresOrder : integer.IgnoresOrder := fun _ _ _ _ _ _ _ _ _ _ _ _ => Verdict.alike_self _

lemma noBounds_ignoresOrder : noBounds.IgnoresOrder := fun _ _ _ _ _ _ _ _ _ _ _ _ => Verdict.alike_self _

lemma allowedUnits_ignoresOrder : allowedUnits.IgnoresOrder := by
  intro s find? graph c σ f k m _ _ _ hm
  refine (Parameters.units_alike hm).bind fun u u' hu => .ok ?_
  have hrequire : (c.moved σ f).requireQuantity = c.requireQuantity := rfl
  rw [hrequire]
  cases c.requireQuantity with
  | error v => rfl
  | ok q =>
    apply Verdict.sameStatus_of
    cases q.unit with
    | none => exact hu.2.symm
    | some unit => exact hu.1.contains_eq.symm

end Values

section Texts

lemma format_ignoresOrder : format.IgnoresOrder := by
  intro s find? graph c σ f k m _ _ _ hm
  exact (Parameters.format_alike hm).bind_eq fun _ => Verdict.alike_self _

lemma commonsLink_ignoresOrder : commonsLink.IgnoresOrder := by
  intro s find? graph c σ f k m _ _ _ hm
  exact (Parameters.pageNamespace_alike hm).bind_eq fun _ => Verdict.alike_self _

end Texts

section Ranges

lemma range_ignoresOrder : range.IgnoresOrder := by
  intro s find? graph c σ f k m _ _ _ hm
  have hrequire : (c.moved σ f).requireValue = c.requireValue := rfl
  simp only [range, hrequire]
  cases c.requireValue with
  | error v => exact Verdict.alike_self _
  | ok v =>
    cases v with
    | quantity q => exact (Parameters.range_alike hm _ _ _).bind_eq fun _ => Verdict.alike_self _
    | time t => exact (Parameters.range_alike hm _ _ _).bind_eq fun _ => Verdict.alike_self _
    | _ => exact Verdict.alike_self _

lemma diffWithinRange_alike (hm : k.parameters.Permuted m) :
    Alike Verdict.SameStatus (diffWithinRange.verdict s c k) (diffWithinRange.verdict s c (k.withParameters m)) :=
  (Parameters.difference_alike hm).bind_eq fun _ => Verdict.alike_self _

end Ranges

end Rule

end EntityAudit
