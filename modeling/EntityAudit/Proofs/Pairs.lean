import EntityAudit.Proofs.Outcome
import EntityAudit.ResultSource

namespace EntityAudit

lemma Context.snak_mem {e : Entity} {s : Statement} {i : Nat} {context : Context}
    (h : context ∈ Context.ofStatement e s i) : context.snak ∈ s.snaks := by
  simp only [ofStatement, List.cons_append, List.mem_cons, List.mem_append, List.mem_map,
    List.mem_flatMap] at h
  simp only [Statement.snaks, List.cons_append, List.mem_cons, List.mem_append, List.mem_flatMap]
  rcases h with rfl | ⟨x, hx, rfl⟩ | ⟨r, hr, x, hx, rfl⟩
  · exact .inl rfl
  · exact .inr (.inl hx)
  · exact .inr (.inr ⟨r, hr, hx⟩)

lemma Context.exists_place {e : Entity} {s : Statement} {i : Nat} {context : Context}
    (h : context ∈ Context.ofStatement e s i) : ∃ place, context = ⟨e, s, i, place⟩ := by
  simp only [ofStatement, List.cons_append, List.mem_cons, List.mem_append, List.mem_map,
    List.mem_flatMap] at h
  rcases h with rfl | ⟨x, hx, rfl⟩ | ⟨r, hr, x, hx, rfl⟩
  · exact ⟨_, rfl⟩
  · exact ⟨_, rfl⟩
  · exact ⟨_, rfl⟩

lemma Context.statement_of_mem {e : Entity} {s : Statement} {i : Nat} {context : Context}
    (h : context ∈ Context.ofStatement e s i) : context.statement = s := by
  obtain ⟨place, rfl⟩ := Context.exists_place h
  rfl

lemma Context.entity_of_mem {e : Entity} {s : Statement} {i : Nat} {context : Context}
    (h : context ∈ Context.ofStatement e s i) : context.entity = e := by
  obtain ⟨place, rfl⟩ := Context.exists_place h
  rfl

namespace Auditor

lemma flatMap_filter_of_agree {α β : Type} {l : List α} {f : α → List β} {p : α → Bool} {q : β → Bool}
    (h : ∀ x ∈ l, ∀ y ∈ f x, q y = p x) : (l.filter p).flatMap f = (l.flatMap f).filter q := by
  induction l with
  | nil => rfl
  | cons x l ih =>
    have hrest := ih fun y hy => h y (List.mem_cons_of_mem _ hy)
    rw [List.flatMap_cons, List.filter_append, ← hrest]
    cases hx : p x with
    | true =>
      have hall : (f x).filter q = f x :=
        List.filter_eq_self.mpr fun y hy => (h x List.mem_cons_self y hy).trans hx
      rw [List.filter_cons_of_pos hx, List.flatMap_cons, hall]
    | false =>
      have hnone : (f x).filter q = [] :=
        List.filter_eq_nil_iff.mpr fun y hy => by simp [h x List.mem_cons_self y hy, hx]
      rw [List.filter_cons_of_neg (by simp [hx]), hnone, List.nil_append]

abbrev Pair := Context × Constraint

variable (a : Auditor)

def pairs (id : EntityId) : List Pair :=
  match a.services.find? id with
  | none => []
  | some e =>
    (e.withCounts.statements.placed.filter fun s => !s.1.isDeprecated).flatMap fun s =>
      (Context.ofStatement e.withCounts s.1 s.2).flatMap fun context =>
        (a.constraints context.property).map fun c => (context, c)

def outcomeOf (p : Pair) : Result := a.outcome p.1 p.2

variable {a} {b : Auditor}

lemma of_fetch {constraintIds : Option (List String)} {statements : List Statement} {s : Statement}
    {snak : Snak} (hs : s ∈ statements) (hsnak : snak ∈ s.snaks) :
    (a.fetch constraintIds statements).of snak.property = a.applicable constraintIds snak.property := by
  have hused : snak.property ∈
      (SortedMap.setOf (statements.flatMap fun s => s.snaks.map (·.property))).keys := by
    rw [← SortedMap.contains_iff_mem_keys, SortedMap.contains_setOf]
    exact List.mem_flatMap.mpr ⟨s, hs, List.mem_map_of_mem hsnak⟩
  unfold fetch ConstraintTable.of SortedMap.ofList
  rw [SortedMap.get?_foldl_insert (f := fun p => some (a.applicable constraintIds p)), if_pos]
  · rfl
  · simpa using hused
  · intro entry hentry
    obtain ⟨p, -, rfl⟩ := List.mem_map.mp hentry
    rfl

lemma contextResults_fetch {constraintIds : Option (List String)} {statements : List Statement}
    {e : Entity} {s : Statement} {i : Nat} {context : Context} (hs : s ∈ statements)
    (h : context ∈ Context.ofStatement e s i) :
    a.contextResults (a.fetch constraintIds statements) context =
      (a.applicable constraintIds context.property).map (a.outcome context) := by
  have hfetch : (a.fetch constraintIds statements).of context.property =
      a.applicable constraintIds context.property := of_fetch hs (Context.snak_mem h)
  unfold contextResults
  rw [hfetch]
  rfl

def statementPairs (a : Auditor) (e : Entity) (s : Statement × Nat) : List Pair :=
  (Context.ofStatement e s.1 s.2).flatMap fun context =>
    (a.constraints context.property).map fun c => (context, c)

lemma statement_of_mem_statementPairs {e : Entity} {s : Statement × Nat} {p : Pair}
    (h : p ∈ a.statementPairs e s) : p.1.statement = s.1 := by
  obtain ⟨context, hcontext, hc⟩ := List.mem_flatMap.mp h
  obtain ⟨c, -, rfl⟩ := List.mem_map.mp hc
  exact Context.statement_of_mem hcontext

lemma flatMap_contextResults {constraintIds : Option (List String)} {statements : List (Statement × Nat)}
    {e : Entity} {s : Statement × Nat} (hs : s ∈ statements) :
    (Context.ofStatement e s.1 s.2).flatMap (a.contextResults (a.fetch constraintIds (statements.map (·.1)))) =
      ((a.statementPairs e s).filter fun p => constraintIds.all (·.contains p.2.id)).map a.outcomeOf := by
  have hfetch : ∀ context ∈ Context.ofStatement e s.1 s.2,
      a.contextResults (a.fetch constraintIds (statements.map (·.1))) context =
        (a.applicable constraintIds context.property).map (a.outcome context) :=
    fun context hcontext => contextResults_fetch (List.mem_map_of_mem hs) hcontext
  rw [List.flatMap_congr hfetch]
  simp only [statementPairs, List.filter_flatMap, List.map_flatMap, List.filter_map, List.map_map]
  rfl

lemma entityResults_eq_filter (id : EntityId) (guids constraintIds : Option (List String)) :
    a.entityResults id guids constraintIds =
      ((a.pairs id).filter fun p => constraintIds.all (·.contains p.2.id) &&
        guids.all (·.contains p.1.statement.guid)).map a.outcomeOf := by
  unfold entityResults pairs
  cases a.services.find? id with
  | none => rfl
  | some e =>
    let all := e.withCounts.statements.placed.filter fun s => !s.1.isDeprecated
    let asked := e.withCounts.statements.placed.filter fun s =>
      !s.1.isDeprecated && guids.all (·.contains s.1.guid)
    have hasked : asked = all.filter fun s => guids.all (·.contains s.1.guid) := by
      rw [List.filter_filter]
      exact List.filter_congr fun s _ => Bool.and_comm _ _
    have hguid : ∀ s ∈ all, ∀ p ∈ a.statementPairs e.withCounts s,
        guids.all (·.contains p.1.statement.guid) = guids.all (·.contains s.1.guid) :=
      fun s _ p hp => by rw [statement_of_mem_statementPairs hp]
    calc asked.flatMap (fun s => (Context.ofStatement e.withCounts s.1 s.2).flatMap
          (a.contextResults (a.fetch constraintIds (asked.map (·.1)))))
        = asked.flatMap fun s => ((a.statementPairs e.withCounts s).filter fun p =>
            constraintIds.all (·.contains p.2.id)).map a.outcomeOf :=
          List.flatMap_congr fun s hs => flatMap_contextResults hs
      _ = ((asked.flatMap (a.statementPairs e.withCounts)).filter fun p =>
            constraintIds.all (·.contains p.2.id)).map a.outcomeOf := by
          rw [List.filter_flatMap, List.map_flatMap]
      _ = ((all.flatMap (a.statementPairs e.withCounts)).filter fun p =>
            constraintIds.all (·.contains p.2.id) &&
              guids.all (·.contains p.1.statement.guid)).map a.outcomeOf := by
          rw [hasked, flatMap_filter_of_agree hguid, List.filter_filter]

lemma entityResults_eq (id : EntityId) (constraintIds : Option (List String)) :
    a.entityResults id none constraintIds =
      ((a.pairs id).filter fun p => constraintIds.all (·.contains p.2.id)).map a.outcomeOf := by
  simp only [entityResults_eq_filter, Option.all_none, Bool.and_true]

lemma entityResults_all (a : Auditor) (id : EntityId) :
    a.entityResults id none none = (a.pairs id).map a.outcomeOf := by
  simp only [entityResults_eq, Option.all_none, List.filter_true]

lemma pairs_congr {id : EntityId} (hfind : b.services.find? id = a.services.find? id)
    (hconstraints : b.constraints = a.constraints) : b.pairs id = a.pairs id := by
  simp only [pairs, hfind, hconstraints]

def contexts (a : Auditor) (id : EntityId) : List Context :=
  match a.services.find? id with
  | none => []
  | some e =>
    (e.withCounts.statements.placed.filter fun s => !s.1.isDeprecated).flatMap fun s =>
      Context.ofStatement e.withCounts s.1 s.2

def pairing (xs : List Context) (f : PropertyId → List Constraint) : List Pair :=
  xs.flatMap fun x => (f x.property).map fun c => (x, c)

lemma pairs_eq_pairing (a : Auditor) (id : EntityId) :
    a.pairs id = pairing (a.contexts id) a.constraints := by
  unfold pairs contexts pairing
  cases a.services.find? id with
  | none => rfl
  | some e => simp only [List.flatMap_assoc]

lemma contexts_congr {id : EntityId} (h : b.services.find? id = a.services.find? id) :
    b.contexts id = a.contexts id := by
  simp only [contexts, h]

lemma filter_pairing (g : Constraint → Bool) (xs : List Context) (f : PropertyId → List Constraint) :
    (pairing xs f).filter (fun p => g p.2) = pairing xs fun p => (f p).filter g := by
  simp only [pairing, List.filter_flatMap, List.filter_map]
  rfl

lemma pairing_perm {xs : List Context} {f g : PropertyId → List Constraint}
    (h : ∀ x ∈ xs, (f x.property).Perm (g x.property)) : (pairing xs f).Perm (pairing xs g) :=
  List.Perm.flatMap_left xs fun x hx => (h x hx).map _

lemma source_entity (q : Query) (id : EntityId) (hentities : q.entities = [id]) (hclaims : q.claims = []) :
    (a.source q).results =
      (((a.pairs id).filter fun p => q.constraints.all (·.contains p.2.id)).map a.outcomeOf).filter
        fun r => q.statuses.contains r.status := by
  simp only [source, ResultSet.ofResults, hentities, hclaims, List.flatMap_cons, List.flatMap_nil,
    List.append_nil, entityResults_eq]

end Auditor

end EntityAudit
