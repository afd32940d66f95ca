import EntityAudit.Proofs.Counting.Best
import EntityAudit.Proofs.Decimal.Equality
import EntityAudit.Proofs.Ordered.Lookup
import EntityAudit.Proofs.Rule.Opposite

namespace EntityAudit

/-! ## Equality of snaks

Numbers are compared as numbers. This is symmetric, though an undefined number does not equal itself. -/

lemma beq_comm_of_option {α : Type} [BEq α] [PartialEquivBEq α] (x y : Option α) : (x == y) = (y == x) := by
  cases x with
  | none => cases y <;> rfl
  | some a =>
    cases y with
    | none => rfl
    | some b => exact BEq.comm (a := a)

lemma Quantity.beq_comm (a b : Quantity) : (a == b) = (b == a) := by
  change (_ == _ && (_ == _ && (_ == _ && _ == _))) = (_ == _ && (_ == _ && (_ == _ && _ == _)))
  rw [BEq.comm (a := a.amount), beq_comm_of_option a.lowerBound, beq_comm_of_option a.upperBound,
    beq_comm_of_option a.unit]

lemma GlobeCoordinate.beq_comm (a b : GlobeCoordinate) : (a == b) = (b == a) := by
  change (_ == _ && (_ == _ && _ == _)) = (_ == _ && (_ == _ && _ == _))
  rw [BEq.comm (a := a.latitude), BEq.comm (a := a.longitude), beq_comm_of_option a.precision]

lemma Value.beq_comm (a b : Value) : (a == b) = (b == a) := by
  cases a with
  | string s =>
    cases b with
    | string t => exact BEq.comm (a := s)
    | _ => rfl
  | entity id =>
    cases b with
    | entity id' => exact BEq.comm (a := id)
    | _ => rfl
  | quantity q =>
    cases b with
    | quantity q' => exact q.beq_comm q'
    | _ => rfl
  | time t =>
    cases b with
    | time t' => exact BEq.comm (a := t)
    | _ => rfl
  | monolingual t =>
    cases b with
    | monolingual t' => exact BEq.comm (a := t)
    | _ => rfl
  | globe c =>
    cases b with
    | globe c' => exact c.beq_comm c'
    | _ => rfl

lemma Snak.beq_comm (a b : Snak) : (a == b) = (b == a) := by
  cases a with
  | value p v =>
    cases b with
    | value q w =>
      change (p == q && v == w) = (q == p && w == v)
      rw [BEq.comm (a := p), Value.beq_comm]
    | _ => rfl
  | someValue p =>
    cases b with
    | someValue q => exact BEq.comm (a := p)
    | _ => rfl
  | noValue p =>
    cases b with
    | noValue q => exact BEq.comm (a := p)
    | _ => rfl

/-! ## The search -/

def EntityId.Precedes : EntityId → EntityId → Prop
  | item a, item b => a.number < b.number
  | item _, property _ => True
  | property _, item _ => False
  | property a, property b => a.number < b.number

lemma EntityId.precedes_of_compare {a b : EntityId} (h : compare a b = .lt) : a.Precedes b := by
  cases a with
  | item a =>
    cases b with
    | item b => exact compareOfLessAndEq_eq_lt.mp h
    | property b => trivial
  | property a =>
    cases b with
    | item b => cases h
    | property b => exact compareOfLessAndEq_eq_lt.mp h

namespace Store

variable {s : Store} {id exclude : EntityId} {wanted : Statement → Bool} {p : Statement → Prop}

def Uses (s : Store) (p : Statement → Prop) (id : EntityId) : Prop :=
  ∃ e, s.find? id = some e ∧ ∃ x ∈ e.statements.toList, x.isDeprecated = false ∧ p x

def ListsOthers (s : Store) (id : EntityId) (p : Statement → Prop) (found : List EntityId) : Prop :=
  ∃ all : List EntityId, all.Pairwise EntityId.Precedes ∧ (∀ other, other ∈ all ↔ other ≠ id ∧ s.Uses p other) ∧
    found = all.take GraphQuery.maxMatches

def uses (s : Store) (wanted : Statement → Bool) (id : EntityId) : Bool :=
  match s.find? id with
  | some e => e.statements.nonDeprecated.any wanted
  | none => false

def others (s : Store) (exclude : EntityId) (wanted : Statement → Bool) : List EntityId :=
  s.ids.filter fun id => s.uses wanted id && id ≠ exclude

lemma uses_iff (h : ∀ x, wanted x = true ↔ p x) : s.uses wanted id = true ↔ s.Uses p id := by
  unfold uses Uses
  cases s.find? id with
  | none => simp
  | some e => simp [StatementList.nonDeprecated, h]

lemma mem_others_iff {other : EntityId} (h : ∀ x, wanted x = true ↔ p x) :
    other ∈ s.others exclude wanted ↔ other ≠ exclude ∧ s.Uses p other := by
  rw [others, List.mem_filter, Bool.and_eq_true, uses_iff h, decide_eq_true_eq]
  constructor
  · rintro ⟨-, huses, hne⟩
    exact ⟨hne, huses⟩
  · rintro ⟨hne, huses⟩
    obtain ⟨e, he, -⟩ := id huses
    exact ⟨mem_ids_of_find? he, huses, hne⟩

lemma pairwise_ids (s : Store) : s.ids.Pairwise EntityId.Precedes :=
  List.pairwise_map.mpr (s.entities.sorted.imp EntityId.precedes_of_compare)

end Store

namespace GraphQuery

variable {s : Store} {exclude : EntityId} {wanted : Statement → Bool} {p : Statement → Prop}
  {found ids : List EntityId}

def collect (s : Store) (exclude : EntityId) (wanted : Statement → Bool) (found : List EntityId) :
    List EntityId → List EntityId
  | [] => found
  | id :: ids =>
    if id = exclude then collect s exclude wanted found ids
    else
      match s.find? id with
      | none => collect s exclude wanted found ids
      | some e =>
        if e.statements.nonDeprecated.any wanted then
          if found.length + 1 = maxMatches then found ++ [id] else collect s exclude wanted (found ++ [id]) ids
        else collect s exclude wanted found ids

lemma collect_cons (id : EntityId) :
    collect s exclude wanted found (id :: ids) =
      if (s.uses wanted id && id ≠ exclude) = true then
        if found.length + 1 = maxMatches then found ++ [id] else collect s exclude wanted (found ++ [id]) ids
      else collect s exclude wanted found ids := by
  rw [collect, Store.uses]
  by_cases hid : id = exclude
  · simp [hid]
  · cases s.find? id with
    | none => simp [hid]
    | some e => simp [hid]

lemma collect_eq (h : found.length < maxMatches) :
    collect s exclude wanted found ids =
      found ++ (ids.filter fun id => s.uses wanted id && id ≠ exclude).take (maxMatches - found.length) := by
  induction ids generalizing found with
  | nil => simp [collect]
  | cons id ids ih =>
    rw [collect_cons, List.filter_cons]
    split
    · obtain ⟨k, hk⟩ := Nat.exists_eq_add_of_lt h
      rw [show maxMatches - found.length = k + 1 by omega, List.take_succ_cons]
      split
      · rename_i hlast
        obtain rfl : k = 0 := by omega
        rfl
      · have hlength : (found ++ [id]).length = found.length + 1 := List.length_append
        rw [ih (by omega), hlength, show maxMatches - (found.length + 1) = k by omega, List.append_assoc]
        rfl
    · exact ih h

lemma scan_eq_take : scan s exclude wanted = (s.others exclude wanted).take maxMatches := by
  rw [Store.others, ← List.filter_filter]
  rfl

lemma collect_ids : collect s exclude wanted [] s.ids = scan s exclude wanted :=
  (collect_eq (by decide)).trans scan_eq_take.symm

lemma listsOthers_scan (h : ∀ x, wanted x = true ↔ p x) : s.ListsOthers exclude p (scan s exclude wanted) :=
  ⟨s.others exclude wanted, s.pairwise_ids.filter _, fun _ => Store.mem_others_iff h, scan_eq_take⟩

lemma scan_eq_nil_iff (h : ∀ x, wanted x = true ↔ p x) :
    scan s exclude wanted = [] ↔ ¬ ∃ other, other ≠ exclude ∧ s.Uses p other := by
  have hlimit : maxMatches ≠ 0 := by decide
  rw [scan_eq_take, List.take_eq_nil_iff, or_iff_right hlimit, List.eq_nil_iff_forall_not_mem]
  simp only [Store.mem_others_iff h, not_exists]

end GraphQuery

/-! ## The rule about unique values -/

def Store.SharedBy (s : Store) (id : EntityId) (snak : Snak) : Prop :=
  ∃ other, other ≠ id ∧ s.Uses (fun y => (y.mainSnak == snak) = true) other

namespace Rule

variable {config : Config} {s : Store} {services : Services} {a : Entity} {x : Statement × Nat} {c : Constraint}
  {status : Status}

lemma uniqueValue_gives_iff (hgraph : services.graph = some (.ofStore config s))
    (hvalue : x.1.mainSnak.value?.isSome = true) :
    uniqueValue.Gives services (.ofMain a x) c status ↔
      (s.SharedBy a.id x.1.mainSnak ∧ status = .violation) ∨
      (¬ s.SharedBy a.id x.1.mainSnak ∧ status = .compliance) := by
  let found := GraphQuery.scan s a.id (·.mainSnak == x.1.mainSnak)
  have hverdict : uniqueValue.verdict services (.ofMain a x) c =
      .ok ((Verdict.of found.isEmpty (.usedElsewhere c.property found)).withMetadata .blank) := by
    have hsome : ¬ (Context.ofMain a x).snak.value?.isNone = true := by
      rw [← Option.not_isSome, Bool.not_eq_true', Bool.not_eq_false]
      exact hvalue
    simp only [uniqueValue, hgraph, if_neg hsome]
    rfl
  have hnone : found.isEmpty = true ↔ ¬ s.SharedBy a.id x.1.mainSnak :=
    List.isEmpty_iff.trans (GraphQuery.scan_eq_nil_iff fun _ => Iff.rfl)
  have hstatus : uniqueValue.Gives services (.ofMain a x) c status ↔
      (if found.isEmpty then Status.compliance else .violation) = status := by
    rw [Gives, hverdict, ← Verdict.status_of found.isEmpty (.usedElsewhere c.property found)]
    constructor
    · rintro ⟨v, hv, rfl⟩
      rw [← Except.ok.inj hv]
      rfl
    · exact fun h => ⟨_, rfl, h⟩
  rw [hstatus]
  by_cases hempty : found.isEmpty = true
  · simp [hempty, hnone.mp hempty, eq_comm]
  · simp [hempty, not_not.mp (mt hnone.mpr hempty), eq_comm]

end Rule

lemma Store.sharedBy_of_statement {s : Store} {a b : Entity} {x y : Statement × Nat}
    (hb : s.find? b.id = some b) (hne : b.id ≠ a.id) (hy : y ∈ b.statements.placed) (hrank : y.1.isDeprecated = false)
    (h : (y.1.mainSnak == x.1.mainSnak) = true) : s.SharedBy a.id x.1.mainSnak :=
  ⟨b.id, hne, b, hb, y.1, List.fst_mem_of_mem_zipIdx hy, hrank, h⟩

lemma Snak.isSome_value?_of_beq {a b : Snak} (h : (a == b) = true) (ha : a.value?.isSome = true) :
    b.value?.isSome = true := by
  cases a with
  | value p v =>
    cases b with
    | value q w => rfl
    | _ => cases h
  | _ => cases ha

namespace GraphQuery

/-- A query about duplicates lists all other entities that use the snak in a statement that is not deprecated, in order
and up to a limit, and the loop over the store stops there. With it, a value is unique exactly if no other entity uses
it, and a value that two entities share is a violation on both sides. -/
theorem duplicates_mutual (config : Config) (s : Store) :
    (∀ id x, ∃ found, (ofStore config s).sameStatement id x = .ok { value := found } ∧
      s.ListsOthers id (fun y => (y.mainSnak == x.mainSnak) = true) found ∧
      found = collect s id (·.mainSnak == x.mainSnak) [] s.ids) ∧
    (∀ id snak, ∃ found, (ofStore config s).sameQualifier id snak = .ok { value := found } ∧
      s.ListsOthers id (fun y => ∃ q ∈ y.qualifiers, (q == snak) = true) found ∧
      found = collect s id (·.qualifiers.contains snak) [] s.ids) ∧
    (∀ id snak, ∃ found, (ofStore config s).sameReference id snak = .ok { value := found } ∧
      s.ListsOthers id (fun y => ∃ r ∈ y.references, ∃ q ∈ r.snaks, (q == snak) = true) found ∧
      found = collect s id (·.references.any (·.snaks.contains snak)) [] s.ids) ∧
    ∀ services : Services, services.graph = some (ofStore config s) → ∀ a : Entity, ∀ x ∈ a.statements.placed,
      x.1.mainSnak.value?.isSome = true →
      (∀ c, (Rule.uniqueValue.Gives services (.ofMain a x) c .violation ↔ s.SharedBy a.id x.1.mainSnak) ∧
        (Rule.uniqueValue.Gives services (.ofMain a x) c .compliance ↔ ¬ s.SharedBy a.id x.1.mainSnak)) ∧
      ∀ b : Entity, s.find? a.id = some a → s.find? b.id = some b → a.id ≠ b.id → ∀ y ∈ b.statements.placed,
        x.1.isDeprecated = false → y.1.isDeprecated = false → (x.1.mainSnak == y.1.mainSnak) = true → ∀ c d,
          Rule.uniqueValue.Gives services (.ofMain a x) c .violation ∧
            Rule.uniqueValue.Gives services (.ofMain b y) d .violation := by
  have hcontains (l : List Snak) (snak : Snak) : l.contains snak = true ↔ ∃ q ∈ l, (q == snak) = true := by
    rw [List.contains_eq_any_beq, List.any_eq_true]
    simp only [Snak.beq_comm snak]
  refine ⟨fun id x => ⟨_, rfl, listsOthers_scan fun _ => Iff.rfl, collect_ids.symm⟩,
    fun id snak => ⟨_, rfl, listsOthers_scan fun y => hcontains _ _, collect_ids.symm⟩,
    fun id snak => ⟨_, rfl, listsOthers_scan fun y => ?_, collect_ids.symm⟩, ?_⟩
  · simp only [List.any_eq_true, hcontains]
  · intro services hgraph a x hx hvalue
    refine ⟨fun c => ⟨?_, ?_⟩, fun b ha hb hne y hy hxrank hyrank hsame c d => ⟨?_, ?_⟩⟩
    · rw [Rule.uniqueValue_gives_iff hgraph hvalue]
      simp
    · rw [Rule.uniqueValue_gives_iff hgraph hvalue]
      simp
    · rw [Snak.beq_comm] at hsame
      exact (Rule.uniqueValue_gives_iff hgraph hvalue).mpr
        (.inl ⟨Store.sharedBy_of_statement hb hne.symm hy hyrank hsame, rfl⟩)
    · exact (Rule.uniqueValue_gives_iff hgraph (Snak.isSome_value?_of_beq hsame hvalue)).mpr
        (.inl ⟨Store.sharedBy_of_statement ha hne hx hxrank hsame, rfl⟩)

end GraphQuery

namespace Sample

def catalogued : PropertyId := ⟨214⟩

def entry (n : UInt64) (rank : Rank) : Statement where
  guid := (ItemId.mk n).toString ++ "$1"
  mainSnak := .value catalogued (.string "7")
  rank := rank

def crowd : Store :=
  let items := (List.range' 1 14).map fun n =>
    Entity.mk (.item ⟨.ofNat n⟩) (.ofList [entry (.ofNat n) (if n = 4 then .deprecated else .normal)])
  let all := Entity.mk (.property ⟨1⟩) (.ofList [entry 0 .normal]) :: items
  (all.foldl (fun (s : Store) e => (s.save e).1) Store.empty).addRedirect (.item ⟨3⟩) (.item ⟨2⟩)

end Sample

namespace GraphQuery

open Sample

theorem duplicates_of_crowd :
    let services : Services := { config := {}, find? := crowd.find?, graph := some (ofStore {} crowd), now := ⟨0, 0⟩ }
    let a : Entity := ⟨.item ⟨1⟩, .ofList [entry 1 .normal]⟩
    let b : Entity := ⟨.property ⟨1⟩, .ofList [entry 0 .normal]⟩
    let c : Constraint := { id := "P214$1", property := catalogued, type := ⟨21502410⟩ }
    crowd.ListsOthers a.id (fun y => (y.mainSnak == (entry 1 .normal).mainSnak) = true)
        ([2, 5, 6, 7, 8, 9, 10, 11, 12, 13].map fun n => EntityId.item ⟨n⟩) ∧
      Rule.uniqueValue.Gives services (.ofMain a (entry 1 .normal, 0)) c .violation ∧
      Rule.uniqueValue.Gives services (.ofMain b (entry 0 .normal, 0)) c .violation := by
  intro services a b c
  obtain ⟨hlists, -, -, hunique⟩ := duplicates_mutual {} crowd
  obtain ⟨found, -, hfound, hloop⟩ := hlists a.id (entry 1 .normal)
  have hten : found = [2, 5, 6, 7, 8, 9, 10, 11, 12, 13].map fun n => EntityId.item ⟨n⟩ := by
    rw [hloop]
    decide
  have ha : crowd.find? a.id = some a := by rfl
  have hb : crowd.find? b.id = some b := by rfl
  obtain ⟨-, hmutual⟩ := hunique services rfl a (entry 1 .normal, 0) (List.mem_singleton_self _) rfl
  exact ⟨hten ▸ hfound, hmutual b ha hb (by decide) (entry 0 .normal, 0) (List.mem_singleton_self _) rfl rfl
    (by decide) c c⟩

end GraphQuery

end EntityAudit
