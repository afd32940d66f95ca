import EntityAudit.Proofs.Reordered.Rules
import EntityAudit.Session

namespace EntityAudit

namespace Catalog

variable {types : ConstraintTypes} {type : ItemId} {rule : Rule}

lemma ignoresOrder_or_eq {entry : ItemId × Rule} (h : entry ∈ entries types) :
    entry.2.IgnoresOrder ∨ entry = (types.diffWithinRange, Rule.diffWithinRange) := by
  simp only [entries, List.mem_cons, List.not_mem_nil, or_false] at h
  rcases h with rfl | rfl | rfl | rfl | rfl | rfl | rfl | rfl | rfl | rfl | rfl | rfl | rfl | rfl |
    rfl | rfl | rfl | rfl | rfl | rfl | rfl | rfl | rfl | rfl | rfl | rfl
  · exact .inl Rule.conflictsWith_ignoresOrder
  · exact .inl Rule.item_ignoresOrder
  · exact .inl Rule.targetRequiredClaim_ignoresOrder
  · exact .inl Rule.symmetric_ignoresOrder
  · exact .inl Rule.inverse_ignoresOrder
  · exact .inl Rule.qualifier_ignoresOrder
  · exact .inl Rule.qualifiers_ignoresOrder
  · exact .inl Rule.mandatoryQualifiers_ignoresOrder
  · exact .inl Rule.range_ignoresOrder
  · exact .inr rfl
  · exact .inl Rule.typeOf_ignoresOrder
  · exact .inl Rule.valueType_ignoresOrder
  · exact .inl Rule.singleValue_ignoresOrder
  · exact .inl Rule.multiValue_ignoresOrder
  · exact .inl Rule.uniqueValue_ignoresOrder
  · exact .inl Rule.format_ignoresOrder
  · exact .inl Rule.commonsLink_ignoresOrder
  · exact .inl Rule.oneOf_ignoresOrder
  · exact .inl Rule.reference_ignoresOrder
  · exact .inl Rule.noneOf_ignoresOrder
  · exact .inl Rule.singleBestValue_ignoresOrder
  · exact .inl Rule.integer_ignoresOrder
  · exact .inl Rule.noBounds_ignoresOrder
  · exact .inl Rule.allowedUnits_ignoresOrder
  · exact .inl Rule.allowedEntityTypes_ignoresOrder
  · exact .inl Rule.propertyScope_ignoresOrder

lemma ignoresOrder_of_get? (h : (ofTypes types).get? type = some rule) :
    rule.IgnoresOrder ∨ type = types.diffWithinRange ∧ rule = Rule.diffWithinRange :=
  (ignoresOrder_or_eq (SortedMap.mem_of_get?_ofList h)).imp_right Prod.mk.inj

end Catalog

namespace Auditor

variable {a b : Auditor} {rule : Rule} {c : Context} {σ : Equiv.Perm ℕ} {f : Entity} {k : Constraint}
  {m : ParameterSnaks} (h : a.Matches b) (hm : k.parameters.Permuted m)

include h hm

lemma roles_alike : Alike List.Perm (a.roles rule k) (b.roles rule (k.withParameters m)) := by
  unfold roles
  rw [h.config]
  apply (Parameters.scope_alike hm).bind
  intro scope scope' hscope
  cases hscope with
  | none => exact .ok (.refl _)
  | some hl =>
    dsimp only
    rcases find?_cases hl (rule.support · = .notSupported) with ⟨hfind, hfind'⟩ | ⟨role, role', hfind, hfind'⟩
    · rw [hfind, hfind']
      exact .ok hl
    · rw [hfind, hfind']
      exact .error _ _

lemma settled?_alike (hmoved : c.entity.MovedBy σ f) :
    Alike Eq (a.settled? rule c k) (b.settled? rule (c.moved σ f) (k.withParameters m)) := by
  unfold settled?
  apply (roles_alike h hm).bind
  intro l l' hl
  have hrole : (c.moved σ f).role = c.role := rfl
  have hid : (c.moved σ f).entity.id = c.entity.id := hmoved.id_eq
  have hdeprecated : (k.withParameters m).deprecated = k.deprecated := rfl
  simp only [hrole, hid, hdeprecated, hl.mem_iff]
  split
  · exact .ok rfl
  · split
    · exact .ok rfl
    · rw [h.config]
      apply (Parameters.exceptions_alike hm).bind
      intro ids ids' hids
      simp only [hids.mem_iff]
      exact .refl (fun _ => rfl) _

lemma weigh_alike {v w : Verdict} (hvw : v.SameStatus w) :
    Alike Verdict.SameStatus (a.weigh k v) (b.weigh (k.withParameters m) w) := by
  unfold weigh
  by_cases hstatus : v.status = .violation
  · have hstatus' : w.status = .violation := hvw.trans hstatus
    simp only [hstatus, hstatus', ne_eq, not_true_eq_false, if_false]
    rw [h.config]
    apply (Parameters.weight_alike hm).bind_eq
    rintro (_ | _ | _)
    · exact .ok rfl
    · exact .ok hvw
    · exact .ok rfl
  · have hstatus' : w.status ≠ .violation := hvw ▸ hstatus
    simp only [ne_eq, hstatus, hstatus', not_false_eq_true, if_true]
    exact .ok hvw

lemma judge_alike (hmoved : c.entity.MovedBy σ f)
    (hrule : Alike Verdict.SameStatus (rule.verdict a.services c k)
      (rule.verdict b.services (c.moved σ f) (k.withParameters m))) :
    Alike Verdict.SameStatus (a.judge rule c k) (b.judge rule (c.moved σ f) (k.withParameters m)) := by
  rw [judge_eq, judge_eq]
  apply (settled?_alike h hm hmoved).bind_eq
  rintro (_ | v)
  · exact hrule.bind fun v w hvw => weigh_alike h hm hvw
  · exact .ok rfl

lemma verdict_sameStatus (hmoved : c.entity.MovedBy σ f)
    (hrule : ∀ rule, a.catalog.get? k.type = some rule → Alike Verdict.SameStatus (rule.verdict a.services c k)
      (rule.verdict b.services (c.moved σ f) (k.withParameters m))) :
    (a.verdict c k).SameStatus (b.verdict (c.moved σ f) (k.withParameters m)) := by
  have htype : (k.withParameters m).type = k.type := rfl
  unfold verdict
  rw [h.catalog, htype]
  cases hget : a.catalog.get? k.type with
  | none => rfl
  | some rule =>
    have hjudge := judge_alike h hm hmoved (hrule rule hget)
    revert hjudge
    dsimp only
    generalize a.judge rule c k = x
    generalize b.judge rule (c.moved σ f) (k.withParameters m) = y
    intro hjudge
    cases hjudge with
    | error e e' => rfl
    | ok hvw => exact hvw

end Auditor

lemma GraphQuery.failing_same (e : QueryError) : (failing e).Same (failing e) :=
  ⟨fun _ _ _ _ _ => .error e e, fun _ _ => rfl, fun _ _ => rfl, fun _ _ => rfl⟩

namespace Session

lemma graphQuery?_same {session : Session} {t : Store} (h : session.store.Reordered t) :
    Option.Rel GraphQuery.Same session.graphQuery? { session with store := t }.graphQuery? := by
  unfold graphQuery?
  cases session.graph with
  | absent => exact .none
  | stored => exact .some (h.ofStore_same session.config)
  | failing e => exact .some (GraphQuery.failing_same e)

/-- The status of a check does not depend on the order in which the parameters of the constraint are given. Unless the
constraint is about a difference, it does not depend on the order of statements either, neither of those of the checked
entity nor of those of any entity in the store. -/
theorem status_of_reordered (session : Session) (t : Store) (ht : session.store.Reordered t) (c : Context)
    (σ : Equiv.Perm ℕ) (f : Entity) (hf : c.entity.MovedBy σ f) (k : Constraint) (m : ParameterSnaks)
    (hm : k.parameters.Permuted m) :
    let a := session.auditor
    let b := { session with store := t }.auditor
    (a.verdict c (k.withParameters m)).status = (a.verdict c k).status ∧
      (k.type ≠ session.config.constraintTypes.diffWithinRange →
        (b.verdict (c.moved σ f) (k.withParameters m)).status = (a.verdict c k).status) := by
  intro a b
  refine ⟨?_, fun htype => ?_⟩
  · have hstays : c.entity.MovedBy (.refl ℕ) c.entity := ⟨rfl, fun _ => rfl⟩
    apply Auditor.verdict_sameStatus (a := a) (b := a) ⟨rfl, rfl⟩ hm hstays
    intro rule hrule
    have hself := Store.Reordered.refl session.store
    rcases Catalog.ignoresOrder_of_get? hrule with hignores | ⟨-, rfl⟩
    · exact hignores a.services _ _ c (.refl ℕ) c.entity k m hself.find? (graphQuery?_same hself) hstays hm
    · exact Rule.diffWithinRange_alike hm
  · apply Auditor.verdict_sameStatus (a := a) (b := b) ⟨rfl, rfl⟩ hm hf
    intro rule hrule
    rcases Catalog.ignoresOrder_of_get? hrule with hignores | ⟨hdifference, -⟩
    · exact hignores a.services _ _ c σ f k m ht.find? (graphQuery?_same ht) hf hm
    · exact absurd hdifference htype

end Session

namespace Sample

def twofold (first second : ItemId) : Entity := linked ⟨1⟩ instanceOf [first, second]

def layered (first second : ItemId) : Session where
  store := (Store.empty.save (linked ⟨5⟩ subclassOf [first, second])).1
  now := ⟨0, 0⟩

def ofClasses (first second : ItemId) : List Snak :=
  [.value ⟨2308⟩ (.entity (.item first)), .value ⟨2309⟩ (.entity (.item ⟨21503252⟩)),
    .value ⟨2308⟩ (.entity (.item second))]

def classRestricted : Constraint where
  id := "P31$2"
  property := instanceOf
  type := ⟨21503250⟩
  parameters := .ofSnaks (ofClasses ⟨7⟩ ⟨8⟩)

def firstKind : Statement := { guid := "Q1$Q4", mainSnak := .value instanceOf (.entity (.item ⟨4⟩)) }

end Sample

namespace Session

open Sample

theorem status_of_reordered_kinds :
    let a := (layered ⟨6⟩ ⟨7⟩).auditor
    let b := (layered ⟨7⟩ ⟨6⟩).auditor
    let c : Context := ⟨twofold ⟨4⟩ ⟨5⟩, firstKind, 0, .mainSnak⟩
    let d : Context := ⟨twofold ⟨5⟩ ⟨4⟩, firstKind, 1, .mainSnak⟩
    let m := ParameterSnaks.ofSnaks (ofClasses ⟨8⟩ ⟨7⟩)
    (a.verdict c classRestricted).status = .compliance ∧
      (a.verdict c (classRestricted.withParameters m)).status = .compliance ∧
      (b.verdict d (classRestricted.withParameters m)).status = .compliance := by
  intro a b c d m
  have ht : (layered ⟨6⟩ ⟨7⟩).store.Reordered (layered ⟨7⟩ ⟨6⟩).store :=
    (Store.Reordered.refl Store.empty).save ⟨rfl, .swap _ _ []⟩
  have hf : (twofold ⟨4⟩ ⟨5⟩).MovedBy (Equiv.swap 0 1) (twofold ⟨5⟩ ⟨4⟩) := by
    refine ⟨rfl, ?_⟩
    rintro (_ | _ | i)
    · rfl
    · rfl
    · rw [Equiv.swap_apply_of_ne_of_ne (by omega) (by omega)]
      rfl
  have hm : classRestricted.parameters.Permuted m := by
    apply ParameterSnaks.Permuted.ofSnaks
    exact ((List.Perm.swap _ _ []).cons _).trans ((List.Perm.swap _ _ _).trans ((List.Perm.swap _ _ []).cons _))
  have hstatus : (a.verdict c classRestricted).status = .compliance := by decide
  obtain ⟨hparameters, hstatements⟩ := status_of_reordered (layered ⟨6⟩ ⟨7⟩) (layered ⟨7⟩ ⟨6⟩).store ht c
    (Equiv.swap 0 1) (twofold ⟨5⟩ ⟨4⟩) hf classRestricted m hm
  exact ⟨hstatus, hparameters.trans hstatus, (hstatements (by decide)).trans hstatus⟩

end Session

end EntityAudit
