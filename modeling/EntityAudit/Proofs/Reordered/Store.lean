import EntityAudit.Proofs.Counting.Group
import EntityAudit.Proofs.Membership.Routes
import EntityAudit.Proofs.Reordered.Parameters
import EntityAudit.Rule.Statements

namespace EntityAudit

structure Entity.Reordered (e f : Entity) : Prop where
  id_eq : f.id = e.id
  perm : e.statements.toList.Perm f.statements.toList

def Reorders (f g : EntityId → Option Entity) : Prop := ∀ id, Option.Rel Entity.Reordered (f id) (g id)

structure Store.Reordered (s t : Store) : Prop where
  redirects : t.redirects = s.redirects
  entities : ∀ id, Option.Rel (fun x y => x.entity.Reordered y.entity) (s.entities.get? id) (t.entities.get? id)

lemma rel_cases {α β : Type} {r : α → β → Prop} {x : Option α} {y : Option β} (h : Option.Rel r x y) :
    x = none ∧ y = none ∨ ∃ a b, x = some a ∧ y = some b ∧ r a b := by
  cases h with
  | none => exact .inl ⟨rfl, rfl⟩
  | some hab => exact .inr ⟨_, _, rfl, rfl, hab⟩

namespace Entity.Reordered

variable {e f : Entity} (h : e.Reordered f)

include h

lemma symm : f.Reordered e := ⟨h.id_eq.symm, h.perm.symm⟩

lemma nonDeprecated_perm : e.statements.nonDeprecated.Perm f.statements.nonDeprecated := h.perm.filter _

lemma relatedItems_perm (relations : List PropertyId) : (e.relatedItems relations).Perm (f.relatedItems relations) :=
  (h.nonDeprecated_perm.filter _).filterMap _

lemma ofProperty_perm (p : PropertyId) : (e.statements.ofProperty p).Perm (f.statements.ofProperty p) :=
  h.perm.filter _

lemma hasConnection_eq (p : PropertyId) {choices choices' : List ItemChoice} (hchoices : choices.Perm choices') :
    f.statements.hasConnection p choices' = e.statements.hasConnection p choices := by
  have hdescribed (s : Statement) :
      choices'.any (·.describes s.mainSnak) = choices.any (·.describes s.mainSnak) := (hchoices.any_eq).symm
  unfold StatementList.hasConnection StatementList.hasProperty StatementList.firstDescribed?
  rw [hchoices.isEmpty_eq, (h.ofProperty_perm p).isEmpty_eq, List.isSome_find?, List.isSome_find?]
  simp only [hdescribed, (h.ofProperty_perm p).any_eq]

lemma firstReferring?_isSome_eq (p : PropertyId) (target : EntityId) :
    (f.statements.firstReferring? p target).isSome = (e.statements.firstReferring? p target).isSome := by
  unfold StatementList.firstReferring?
  rw [List.isSome_find?, List.isSome_find?, (h.ofProperty_perm p).any_eq]

lemma isBest_eq (s : Statement) : f.statements.isBest s = e.statements.isBest s := by
  unfold StatementList.isBest StatementList.hasPreferred
  rw [h.perm.any_eq]

lemma count_eq (p : PropertyId) :
    (f.statements.propertyCounts.get? p).getD 0 = (e.statements.propertyCounts.get? p).getD 0 := by
  rw [StatementList.propertyCounts_eq, StatementList.propertyCounts_eq, count_tally, count_tally, h.perm.countP_eq]

end Entity.Reordered

namespace Reorders

variable {f g : EntityId → Option Entity} (h : Reorders f g)

include h

lemma symm : Reorders g f := by
  intro id
  rcases rel_cases (h id) with ⟨hf, hg⟩ | ⟨e, e', hf, hg, he⟩
  · rw [hf, hg]
    exact .none
  · rw [hf, hg]
    exact .some he.symm

variable {subclassOf : PropertyId} {c d : ItemId} {l : List ItemId}

lemma superclass (hc : Superclass f subclassOf c d) : Superclass g subclassOf c d := by
  obtain ⟨e, he, hd⟩ := hc
  rcases rel_cases (h (.item c)) with ⟨hf, -⟩ | ⟨e₀, e', hf, hg, hperm⟩
  · cases hf.symm.trans he
  · obtain rfl := Option.some.inj (hf.symm.trans he)
    exact ⟨e', hg, (hperm.relatedItems_perm _).mem_iff.mp hd⟩

lemma ascent (hway : Ascent f subclassOf c l d) : Ascent g subclassOf c l d := by
  induction hway with
  | refl c => exact .refl c
  | step hcp _ ih => exact .step (h.superclass hcp) ih

lemma ascent_iff : Ascent g subclassOf c l d ↔ Ascent f subclassOf c l d := ⟨h.symm.ascent, h.ascent⟩

end Reorders

namespace Membership

variable {config : Config} {f g : EntityId → Option Entity} {classes classes' : List ItemId} {e e' : Entity}

lemma byWalk_eq (h : Reorders f g) (he : e.Reordered e') (hclasses : classes.Perm classes')
    (relations : List PropertyId) :
    (byWalk config g classes' e' relations).value = (byWalk config f classes e relations).value := by
  rw [Bool.eq_iff_iff, byWalk_eq_true_iff, byWalk_eq_true_iff]
  simp only [h.ascent_iff, hclasses.mem_iff, (he.relatedItems_perm relations).mem_iff]

inductive Same : Membership → Membership → Prop
  | known {a b : Answer Bool} (h : b.value = a.value) : Same (.known a) (.known b)
  | unavailable : Same .unavailable .unavailable
  | failed (e e' : QueryError) : Same (.failed e) (.failed e')

end Membership

/-- Two services whose answers do not depend on the order in which classes are named, and are the same as far as a
rule looks at them. -/
structure GraphQuery.Same (g h : GraphQuery) : Prop where
  hasType : ∀ id {classes classes' : List ItemId}, classes.Perm classes' → ∀ instance_,
    Alike (fun a b => b.value = a.value) (g.hasType id classes instance_) (h.hasType id classes' instance_)
  sameStatement : ∀ id s, h.sameStatement id s = g.sameStatement id s
  sameQualifier : ∀ id s, h.sameQualifier id s = g.sameQualifier id s
  sameReference : ∀ id s, h.sameReference id s = g.sameReference id s

namespace Membership

variable {config : Config} {f g : EntityId → Option Entity} {classes classes' : List ItemId} {e e' : Entity}

lemma ask_same {graph graph' : GraphQuery} (h : graph.Same graph') (hclasses : classes.Perm classes')
    (id : EntityId) (known known' : Metadata) (l : List Bool) :
    Same (ask classes graph id known l) (ask classes' graph' id known' l) := by
  induction l generalizing known known' with
  | nil => exact .known rfl
  | cons instance_ rest ih =>
    have hanswer := h.hasType id hclasses instance_
    revert hanswer
    rw [ask, ask]
    cases graph.hasType id classes instance_ with
    | error q =>
      cases graph'.hasType id classes' instance_ with
      | error q' => exact fun _ => .failed q q'
      | ok b => exact fun h => by cases h
    | ok a =>
      cases graph'.hasType id classes' instance_ with
      | error q' => exact fun h => by cases h
      | ok b =>
        intro hanswer
        cases hanswer with
        | ok hvalue =>
          dsimp only
          rw [hvalue]
          cases a.value with
          | true => exact .known rfl
          | false => exact ih _ _

lemma check_same {graph graph' : Option GraphQuery} (h : Reorders f g) (hgraph : Option.Rel GraphQuery.Same graph graph')
    (he : e.Reordered e') (hclasses : classes.Perm classes') (relation : Relation) :
    Same (check config f classes graph e relation) (check config g classes' graph' e' relation) := by
  rw [check.eq_def, check.eq_def]
  split
  · cases hgraph with
    | none => exact .unavailable
    | some hgraph =>
      dsimp only
      rw [he.id_eq]
      exact ask_same hgraph hclasses _ _ _ _
  · exact .known (byWalk_eq h he hclasses _)

end Membership

namespace Store.Reordered

lemma refl (s : Store) : s.Reordered s := by
  refine ⟨rfl, fun id => ?_⟩
  cases s.entities.get? id with
  | none => exact .none
  | some x => exact .some ⟨rfl, .refl _⟩

variable {s t : Store} (h : s.Reordered t)

include h

lemma find? : Reorders s.find? t.find? := by
  intro id
  unfold Store.find? load
  rw [h.redirects]
  cases s.redirects.get? id with
  | some target => exact .none
  | none =>
    rcases rel_cases (h.entities id) with ⟨hs, ht⟩ | ⟨x, y, hs, ht, hxy⟩
    · rw [hs, ht]
      exact .none
    · rw [hs, ht]
      exact .some hxy

lemma ids_eq : t.ids = s.ids := by
  have hkeys : t.entities.mapValues (fun _ => ()) = s.entities.mapValues fun _ => () := by
    apply SortedMap.ext_get?
    intro id
    rw [SortedMap.get?_mapValues, SortedMap.get?_mapValues]
    rcases rel_cases (h.entities id) with ⟨hs, ht⟩ | ⟨x, y, hs, ht, -⟩
    · rw [hs, ht]
    · rw [hs, ht]
      rfl
  simpa [SortedMap.keys, SortedMap.mapValues, Function.comp_def, ids] using congrArg SortedMap.keys hkeys

lemma save {e f : Entity} (he : e.Reordered f) : (s.save e).1.Reordered (t.save f).1 := by
  refine ⟨h.redirects, fun id => ?_⟩
  simp only [Store.save, SortedMap.get?_insert, he.id_eq]
  split
  · exact .some he
  · exact h.entities id

lemma scan_eq (exclude : EntityId) (wanted : Statement → Bool) :
    GraphQuery.scan t exclude wanted = GraphQuery.scan s exclude wanted := by
  unfold GraphQuery.scan
  rw [h.ids_eq]
  refine congrArg (List.take GraphQuery.maxMatches) (List.filter_congr fun id _ => ?_)
  rcases rel_cases (h.find? id) with ⟨hs, ht⟩ | ⟨e, e', hs, ht, he⟩
  · rw [hs, ht]
  · rw [hs, ht]
    exact he.nonDeprecated_perm.any_eq.symm

lemma search_eq (subclassOf : PropertyId) {classes classes' queue queue' : List ItemId} (hclasses : classes.Perm classes')
    (hqueue : queue.Perm queue') : GraphQuery.search t subclassOf classes' [] queue' =
      GraphQuery.search s subclassOf classes [] queue := by
  -- The queues differ from the first turn on, so that the searches are compared by what they find.
  rw [Bool.eq_iff_iff, GraphQuery.search_eq_true_iff .nil, GraphQuery.search_eq_true_iff .nil]
  simp only [GraphQuery.Reaches, h.find?.ascent_iff, hclasses.mem_iff, hqueue.mem_iff]

lemma ofStore_same (config : Config) : (GraphQuery.ofStore config s).Same (GraphQuery.ofStore config t) where
  hasType id classes classes' hclasses instance_ := by
    unfold GraphQuery.ofStore
    rcases rel_cases (h.find? id) with ⟨hs, ht⟩ | ⟨e, e', hs, ht, he⟩
    · simp only [hs, ht]
      exact .ok rfl
    · simp only [hs, ht]
      exact .ok (h.search_eq _ hclasses (he.relatedItems_perm _))
  sameStatement id x := by simp only [GraphQuery.ofStore, h.scan_eq]
  sameQualifier id x := by simp only [GraphQuery.ofStore, h.scan_eq]
  sameReference id x := by simp only [GraphQuery.ofStore, h.scan_eq]

end Store.Reordered

end EntityAudit
