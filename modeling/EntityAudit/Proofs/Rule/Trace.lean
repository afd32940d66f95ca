import EntityAudit.Proofs.Agreement
import EntityAudit.Proofs.Rule.Clock
import EntityAudit.Rule.Catalog

/-!
Verdicts that are traced: a later check with services of the same configuration comes to the same
verdict if it sees the same entities and is not past the recorded moment. Only the rules about
unique values and about links ask services that leave no trace.
-/

namespace EntityAudit

structure Confirms (s t : Services) (context : Context) (m : Metadata) : Prop where
  agree : AgreeOn s.find? t.find? m
  clock : Unexpired s.now t.now context.snak.value? m

inductive Follows (s t : Services) (context : Context) :
    Except ParameterError Verdict → Except ParameterError Verdict → Prop
  | error (e : ParameterError) : Follows s t context (.error e) (.error e)
  | ok {v w : Verdict} (same : Confirms s t context v.metadata → w = v)
      (status : w = v ∨ w.status ≠ .badParameters) : Follows s t context (.ok v) (.ok w)

def Rule.IsLocal (rule : Rule) : Prop :=
  ∀ s t : Services, t.config = s.config → rule.verdict t = rule.verdict s

def Rule.Traced (config : Config) (rule : Rule) : Prop :=
  ∀ (s t : Services) (context : Context) (c : Constraint), s.config = config → t.config = config →
    Follows s t context (rule.verdict s context c) (rule.verdict t context c)

variable {config : Config} {s t : Services} {context : Context} {c : Constraint}

namespace Confirms

variable {a b : Metadata}

lemma left (h : Confirms s t context (a.combine b)) : Confirms s t context a where
  agree := h.agree.left
  clock := h.clock.mono fun ahead => by
    rw [Metadata.combine, Metadata.all_earliest, Bool.and_eq_true] at ahead
    exact ahead.1

lemma right (h : Confirms s t context (a.combine b)) : Confirms s t context b where
  agree := h.agree.right
  clock := h.clock.mono fun ahead => by
    rw [Metadata.combine, Metadata.all_earliest, Bool.and_eq_true] at ahead
    exact ahead.2

end Confirms

namespace Verdict

def IsPlain (v : Verdict) : Prop := v.status = .compliance ∨ v.status = .violation ∨ v.status = .todo

@[simp] lemma isPlain_compliance : compliance.IsPlain := .inl rfl

@[simp] lemma isPlain_violation (m : Message) : (violation m).IsPlain := .inr (.inl rfl)

@[simp] lemma isPlain_todo : todo.IsPlain := .inr (.inr rfl)

@[simp] lemma isPlain_of (b : Bool) (m : Message) : (of b m).IsPlain := by
  cases b with
  | true => exact isPlain_compliance
  | false => exact isPlain_violation m

@[simp] lemma isPlain_withParameter {v : Verdict} {name : String} {values : List String} :
    (v.withParameter name values).IsPlain ↔ v.IsPlain := Iff.rfl

lemma IsPlain.status_ne {v : Verdict} (h : v.IsPlain) : v.status ≠ .badParameters := by
  rcases h with h | h | h
  all_goals
    rw [h]
    exact Status.noConfusion

end Verdict

namespace Follows

lemma refl (x : Except ParameterError Verdict) : Follows s t context x x := by
  cases x with
  | error e => exact .error e
  | ok v => exact .ok (fun _ => rfl) (.inl rfl)

lemma bind {α : Type} (x : Parameters.Read α) {f g : α → Except ParameterError Verdict}
    (h : ∀ a, Follows s t context (f a) (g a)) : Follows s t context (x >>= f) (x >>= g) := by
  cases x with
  | error e => exact .error e
  | ok a => exact h a

lemma withParameter {v w : Verdict} (h : Follows s t context (.ok v) (.ok w)) (name : String)
    (values : List String) :
    Follows s t context (.ok (v.withParameter name values)) (.ok (w.withParameter name values)) := by
  cases h with
  | ok same status =>
    refine .ok (fun hc => congrArg (fun v : Verdict => v.withParameter name values) (same hc)) ?_
    exact status.imp_left (congrArg fun v : Verdict => v.withParameter name values)

lemma found {target : EntityId} {missing : Verdict} {f g : Entity → Verdict}
    (hsame : ∀ e e', e'.withCounts = e.withCounts → Confirms s t context (f e).metadata → g e' = f e)
    (hmissing : missing.IsPlain) (hplain : ∀ e, (g e).IsPlain) :
    Follows s t context (.ok (((s.find? target).elim missing f).withMetadata (.ofEntity target)))
      (.ok (((t.find? target).elim missing g).withMetadata (.ofEntity target))) := by
  refine .ok (fun hc => ?_) (.inr ?_)
  · have hat := hc.right.agree.at_entity
    have hleft := hc.left
    cases hf : s.find? target with
    | none => rw [hat.eq_none hf, Option.elim_none, Option.elim_none]
    | some e =>
      obtain ⟨e', he', hcounts⟩ := hat.eq_some hf
      rw [hf, Option.elim_some] at hleft
      rw [he', Option.elim_some, Option.elim_some, hsame e e' hcounts hleft]
  · cases t.find? target with
    | none => exact hmissing.status_ne
    | some e => exact (hplain e).status_ne

end Follows

namespace Rule

lemma IsLocal.traced {rule : Rule} (h : rule.IsLocal) : rule.Traced config := by
  intro s t context c hs ht
  rw [h s t (ht.trans hs.symm)]
  exact .refl _

lemma onTarget_of_ok {verdict : EntityId → Entity → Verdict} {target : EntityId}
    (h : context.requireEntity = .ok target) :
    onTarget s context c verdict = ((s.find? target).elim
      (.violation (.entityMustExist c.property target)) (verdict target)).withMetadata (.ofEntity target) := by
  unfold onTarget
  rw [h]
  cases hf : s.find? target with
  | none =>
    simp only [bind, Except.bind, hf]
    rfl
  | some e =>
    simp only [bind, Except.bind, hf]
    rfl

lemma onTarget_of_error {verdict : EntityId → Entity → Verdict} {v : Verdict}
    (h : context.requireEntity = .error v) : onTarget s context c verdict = v := by
  unfold onTarget
  rw [h]
  rfl

lemma onTarget_follows {f g : EntityId → Entity → Verdict}
    (hsame : ∀ target e e', e'.withCounts = e.withCounts →
      Confirms s t context (f target e).metadata → g target e' = f target e)
    (hplain : ∀ target e, (g target e).IsPlain) :
    Follows s t context (.ok (onTarget s context c f)) (.ok (onTarget t context c g)) := by
  cases h : context.requireEntity with
  | error v =>
    rw [onTarget_of_error h, onTarget_of_error h]
    exact .refl _
  | ok target =>
    rw [onTarget_of_ok h, onTarget_of_ok h]
    exact .found (hsame target) (Verdict.isPlain_violation _) (hplain target)

lemma targetRequiredClaim_traced : targetRequiredClaim.Traced config := by
  rintro ⟨_, _, _, _, _⟩ ⟨_, _, _, _, _⟩ context c rfl rfl
  refine .bind _ fun p => .bind _ fun choices => onTarget_follows ?_ ?_
  · intro target e e' h _
    have hsame := congrArg (fun e : Entity => withConnection
      (.of (e.statements.hasConnection p choices) (.targetNeeds target p)) p choices) h
    exact hsame
  · intro target e
    exact Verdict.isPlain_of _ _

lemma backReference_follows (p : PropertyId) (key : String) :
    Follows s t context (.ok (backReference s context c p key)) (.ok (backReference t context c p key)) := by
  refine onTarget_follows ?_ ?_
  · intro target e e' h _
    have hsame := congrArg (fun e : Entity =>
      Verdict.of (e.statements.firstReferring? p context.entity.id).isSome
        (.pointsBack key target p context.entity.id)) h
    exact hsame
  · intro target e
    exact Verdict.isPlain_of _ _

lemma symmetric_traced : symmetric.Traced config :=
  fun _ _ context _ _ _ => backReference_follows context.property "symmetric"

lemma inverse_traced : inverse.Traced config := by
  rintro ⟨_, _, _, _, _⟩ ⟨_, _, _, _, _⟩ context c rfl rfl
  exact .bind _ fun p => (backReference_follows p "inverse").withParameter _ _

lemma isPlain_belongs (subject : Entity) (classes : List ItemId) (relation : Relation) (key : String) :
    (belongs t subject classes relation key).IsPlain := by
  simp only [belongs, Verdict.isPlain_withParameter]
  split
  · exact Verdict.isPlain_of _ _
  · exact Verdict.isPlain_todo
  · exact Verdict.isPlain_violation _

lemma belongs_confirmed {e e' : Entity} {classes : List ItemId} {relation : Relation} {key : String}
    (hs : s.config = config) (ht : t.config = config) (hwalks : config.useGraphQueryForTypes = false)
    (he : e'.withCounts = e.withCounts)
    (h : Confirms s t context (belongs s e classes relation key).metadata) :
    belongs t e' classes relation key = belongs s e classes relation key := by
  have hcheck : ∀ (find? : EntityId → Option Entity) (graph : Option GraphQuery) (e : Entity),
      Membership.check config find? classes graph e relation =
        .known (Membership.byWalk config find? classes e (relation.properties config)) :=
    fun _ _ _ => if_neg (ne_true_of_eq_false hwalks)
  simp only [belongs, hs, hcheck] at h
  have hby : Membership.byWalk config t.find? classes e' (relation.properties config) =
      Membership.byWalk config s.find? classes e (relation.properties config) := by
    rw [← Membership.byWalk_congr h.right.agree]
    simp only [Membership.byWalk, relatedItems_congr he]
  have hid : e'.withCounts.id = e.withCounts.id := congrArg Entity.id he
  change e'.id = e.id at hid
  simp only [belongs, hs, ht, hcheck, hby, hid]

lemma typeOf_traced (hwalks : config.useGraphQueryForTypes = false) : typeOf.Traced config := by
  intro s t context c hs ht
  simp only [typeOf, hs, ht]
  refine .bind _ fun classes => .bind _ fun relation => .ok (fun hc => ?_) (.inr (isPlain_belongs _ _ _ _).status_ne)
  exact belongs_confirmed hs ht hwalks rfl hc

lemma verdict_valueType (s : Services) (context : Context) (c : Constraint) :
    valueType.verdict s context c = Parameters.classes s.config c >>= fun classes =>
      Parameters.relation s.config c >>= fun relation =>
        .ok (onTarget s context c fun _ e => belongs s e classes relation "value-type") := by
  refine bind_congr fun classes => bind_congr fun relation => congrArg Except.ok ?_
  cases h : context.requireEntity with
  | error v =>
    rw [onTarget_of_error h]
    rfl
  | ok target =>
    rw [onTarget_of_ok h]
    cases hf : s.find? target with
    | none =>
      simp only [bind, Except.bind, hf]
      rfl
    | some e =>
      simp only [bind, Except.bind, hf]
      rfl

lemma valueType_traced (hwalks : config.useGraphQueryForTypes = false) : valueType.Traced config := by
  intro s t context c hs ht
  rw [verdict_valueType, verdict_valueType, hs, ht]
  refine .bind _ fun classes => .bind _ fun relation => onTarget_follows ?_ ?_
  · intro target e e' he hc
    exact belongs_confirmed hs ht hwalks he hc
  · intro target e
    exact isPlain_belongs _ _ _ _

lemma isPlain_range (r : Range) (now : Moment) (v : Value) : (r.verdict now v).IsPlain := by
  unfold Range.verdict
  split
  · dsimp only
    split
    · exact Verdict.isPlain_of _ _
    · exact Verdict.isPlain_of _ _
  · exact Verdict.isPlain_violation _

lemma range_follows {r : Range} {v : Value} (hv : context.snak.value? = some v) :
    Follows s t context (.ok (r.verdict s.now v)) (.ok (r.verdict t.now v)) := by
  refine .ok (fun hc => ?_) (.inr (isPlain_range _ _ _).status_ne)
  exact Range.verdict_unexpired (hv ▸ hc.clock)

lemma range_traced : range.Traced config := by
  intro s t context c hs ht
  simp only [range, hs, ht, Context.requireValue]
  cases hv : context.snak.value? with
  | none => exact .refl _
  | some v =>
    cases v with
    | quantity q => exact .bind _ fun r => range_follows hv
    | time x => exact .bind _ fun r => range_follows hv
    | string => exact .refl _
    | entity => exact .refl _
    | monolingual => exact .refl _
    | globe => exact .refl _

end Rule

namespace Catalog

def Traces (catalog : Catalog) (config : Config) (type : ItemId) : Prop :=
  ∀ rule, catalog.get? type = some rule → rule.Traced config

def asking (types : ConstraintTypes) : List (ItemId × Rule) := [
  (types.targetRequiredClaim, Rule.targetRequiredClaim),
  (types.symmetric, Rule.symmetric),
  (types.inverse, Rule.inverse),
  (types.range, Rule.range),
  (types.typeOf, Rule.typeOf),
  (types.valueType, Rule.valueType),
  (types.uniqueValue, Rule.uniqueValue),
  (types.commonsLink, Rule.commonsLink)]

lemma isLocal_or_mem {types : ConstraintTypes} {entry : ItemId × Rule} (h : entry ∈ entries types) :
    entry.2.IsLocal ∨ entry ∈ asking types := by
  simp only [entries, List.mem_cons, List.not_mem_nil, or_false] at h
  rcases h with rfl | rfl | rfl | rfl | rfl | rfl | rfl | rfl | rfl | rfl | rfl | rfl | rfl | rfl |
    rfl | rfl | rfl | rfl | rfl | rfl | rfl | rfl | rfl | rfl | rfl | rfl
  all_goals first
    | (refine .inr ?_
       simp only [asking, List.mem_cons, true_or, or_true]
       done)
    | (refine .inl ?_
       rintro ⟨_, _, _, _, _⟩ ⟨_, _, _, _, _⟩ rfl
       rfl)

lemma traces_of_ne {types : ConstraintTypes} {type : ItemId} (hunique : type ≠ types.uniqueValue)
    (hlink : type ≠ types.commonsLink)
    (hgraph : config.useGraphQueryForTypes = true → type ≠ types.typeOf ∧ type ≠ types.valueType) :
    (ofTypes types).Traces config type := by
  intro rule hrule
  have hwalks : type = types.typeOf ∨ type = types.valueType → config.useGraphQueryForTypes = false := by
    intro htype
    by_contra htrue
    obtain ⟨hne, hne'⟩ := hgraph (Bool.of_not_eq_false htrue)
    exact htype.elim hne hne'
  rcases isLocal_or_mem (SortedMap.mem_of_get?_ofList hrule) with hlocal | hmem
  · exact hlocal.traced
  · simp only [asking, List.mem_cons, List.not_mem_nil, or_false, Prod.mk.injEq] at hmem
    rcases hmem with ⟨-, rfl⟩ | ⟨-, rfl⟩ | ⟨-, rfl⟩ | ⟨-, rfl⟩ | ⟨htype, rfl⟩ | ⟨htype, rfl⟩ |
      ⟨htype, -⟩ | ⟨htype, -⟩
    · exact Rule.targetRequiredClaim_traced
    · exact Rule.symmetric_traced
    · exact Rule.inverse_traced
    · exact Rule.range_traced
    · exact Rule.typeOf_traced (hwalks (.inl htype))
    · exact Rule.valueType_traced (hwalks (.inr htype))
    · exact absurd htype hunique
    · exact absurd htype hlink

end Catalog

end EntityAudit
