import EntityAudit.Config
import EntityAudit.Store

/-!
Queries over the whole graph of entities: whether an entity belongs to a class, and which other
entities use the same value. A service may fail; a failure is never an answer. The service over a
store follows subclass statements to any length; each class is expanded once, so cycles end.
-/

namespace EntityAudit

inductive QueryError where
  | timeout (millis : Nat)
  | transport (reason : String)
  | internal (reason : String)
  deriving DecidableEq

def QueryError.message : QueryError → String
  | timeout millis => "Query timed out after " ++ toString millis ++ " ms"
  | transport reason => "Transport error: " ++ reason
  | internal reason => "Internal error: " ++ reason

structure Answer (α : Type) where
  value : α
  metadata : Metadata := .blank

structure GraphQuery where
  hasType : EntityId → List ItemId → (instance_ : Bool) → Except QueryError (Answer Bool)
  sameStatement : EntityId → Statement → Except QueryError (Answer (List EntityId))
  sameQualifier : EntityId → Snak → Except QueryError (Answer (List EntityId))
  sameReference : EntityId → Snak → Except QueryError (Answer (List EntityId))

def Entity.relatedItems (e : Entity) (relations : List PropertyId) : List ItemId :=
  (e.statements.nonDeprecated.filter (·.property ∈ relations)).filterMap fun s =>
    s.mainSnak.entity?.bind (·.item?)

namespace GraphQuery

def failing (e : QueryError) : GraphQuery where
  hasType _ _ _ := .error e
  sameStatement _ _ := .error e
  sameQualifier _ _ := .error e
  sameReference _ _ := .error e

theorem countP_lt_of_mem {α : Type} {p q : α → Bool} {l : List α} {a : α}
    (hpq : ∀ x, q x → p x) (ha : a ∈ l) (hp : p a) (hq : ¬ q a) : l.countP q < l.countP p := by
  induction l with
  | nil => simp at ha
  | cons b l ih =>
    have hle : l.countP q ≤ l.countP p := List.countP_mono_left fun x _ => hpq x
    simp only [List.countP_cons]
    rcases List.mem_cons.1 ha with rfl | ha
    · simp [hp, hq]; omega
    · have := ih ha
      have : (if q b then 1 else 0) ≤ (if p b then 1 else 0) := by
        by_cases hb : q b
        · simp [hb, hpq b hb]
        · simp [hb]
      omega

def unvisited (s : Store) (visited : List ItemId) : Nat :=
  s.ids.countP fun id => !(visited.map EntityId.item).contains id

def search (s : Store) (subclassOf : PropertyId) (classes visited : List ItemId) :
    List ItemId → Bool
  | [] => false
  | c :: queue =>
    if c ∈ visited then search s subclassOf classes visited queue
    else if c ∈ classes then true
    else
      match _h : s.find? (.item c) with
      | none => search s subclassOf classes (c :: visited) queue
      | some e => search s subclassOf classes (c :: visited) (queue ++ e.relatedItems [subclassOf])
termination_by queue => (unvisited s visited, queue.length)
decreasing_by
  · exact Prod.Lex.right _ (by simp)
  · have hle : unvisited s (c :: visited) ≤ unvisited s visited :=
      List.countP_mono_left fun x _ hx => by simp_all
    rcases Nat.lt_or_eq_of_le hle with hlt | heq
    · exact Prod.Lex.left _ _ hlt
    · rw [heq]; exact Prod.Lex.right _ (by simp)
  · rename_i hc _
    refine Prod.Lex.left _ _ (countP_lt_of_mem (a := EntityId.item c) (fun x hx => by simp_all) ?_ ?_ ?_)
    · exact Store.mem_ids_of_find? (by assumption)
    · simpa using hc
    · simp

def maxMatches : Nat := 10

def scan (s : Store) (exclude : EntityId) (wanted : Statement → Bool) : List EntityId :=
  ((s.ids.filter (· ≠ exclude)).filter fun id =>
    match s.find? id with
    | some e => e.statements.nonDeprecated.any wanted
    | none => false).take maxMatches

def ofStore (config : Config) (s : Store) : GraphQuery where
  hasType subject classes instance_ :=
    match s.find? subject with
    | none => .ok { value := false }
    | some e =>
      let relation := if instance_ then config.instanceOf else config.subclassOf
      .ok { value := search s config.subclassOf classes [] (e.relatedItems [relation]) }
  sameStatement subject statement :=
    .ok { value := scan s subject (·.mainSnak == statement.mainSnak) }
  sameQualifier subject snak := .ok { value := scan s subject (·.qualifiers.contains snak) }
  sameReference subject snak :=
    .ok { value := scan s subject fun other => other.references.any (·.snaks.contains snak) }

end GraphQuery

end EntityAudit
