import EntityAudit.Snak
import EntityAudit.Text.Split

/-!
Statements: a main snak with a rank, qualifiers and references, and the list of the statements of
one entity. The best statements of a property are its preferred ones, or its normal ones if none
is preferred; a deprecated statement is never among them.
-/

namespace EntityAudit

inductive Rank where
  | preferred
  | normal
  | deprecated
  deriving DecidableEq

namespace Rank

def name : Rank → String
  | preferred => "preferred"
  | normal => "normal"
  | deprecated => "deprecated"

def ofString? (s : String) : Option Rank := [preferred, normal, deprecated].find? (·.name = s)

end Rank

structure Reference where
  snaks : List Snak
  deriving BEq

namespace Reference

def hash (r : Reference) : String :=
  Sha256.ofString (String.join (r.snaks.map fun s => s.hash ++ "\n"))

def toJson (r : Reference) : Json := .object [("snaks", .array (r.snaks.map (·.toJson)))]

def ofJson? (j : Json) : Option Reference := do
  let r ← j.record? ["snaks"]
  return ⟨← r.required? "snaks" (Json.list? Snak.ofJson?)⟩

end Reference

structure Statement where
  guid : String
  mainSnak : Snak
  rank : Rank := .normal
  qualifiers : List Snak := []
  references : List Reference := []
  deriving BEq

namespace Statement

def property (s : Statement) : PropertyId := s.mainSnak.property

def isDeprecated (s : Statement) : Bool := s.rank == .deprecated

def snaks (s : Statement) : List Snak :=
  s.mainSnak :: s.qualifiers ++ s.references.flatMap (·.snaks)

def qualifiersOf (s : Statement) (p : PropertyId) : List Snak :=
  s.qualifiers.filter (·.property = p)

def entityOfGuid (guid : String) : Except ReadError EntityId :=
  ReadError.orElse (.statementGuid guid) do
    let (entity, rest) ← Text.splitOnce? '$' guid.toList
    if rest.isEmpty then none else EntityId.ofString? (String.ofList entity)

def toJson (s : Statement) : Json :=
  .record [
    ("guid", some (.text s.guid)),
    ("main_snak", some s.mainSnak.toJson),
    ("rank", some (.text s.rank.name)),
    ("qualifiers", if s.qualifiers.isEmpty then none else some (.array (s.qualifiers.map (·.toJson)))),
    ("references", if s.references.isEmpty then none else some (.array (s.references.map (·.toJson))))]

def ofJson? (j : Json) : Option Statement := do
  let r ← j.record? ["guid", "main_snak", "rank", "qualifiers", "references"]
  return {
    guid := ← r.required? "guid" Json.string?
    mainSnak := ← r.required? "main_snak" Snak.ofJson?
    rank := ← r.defaulting? "rank" .normal (Json.choice? Rank.ofString?)
    qualifiers := ← r.defaulting? "qualifiers" [] (Json.list? Snak.ofJson?)
    references := ← r.defaulting? "references" [] (Json.list? Reference.ofJson?) }

end Statement

def tally (l : List Statement) : SortedMap PropertyId Nat :=
  (l.filter (!·.isDeprecated)).foldl (fun m s => m.alter s.property fun n => n.getD 0 + 1) .empty

structure StatementList where
  toList : List Statement
  counted : Option (SortedMap PropertyId Nat) := none
  counted_eq : ∀ c ∈ counted, c = tally toList := by simp

namespace StatementList

def ofList (l : List Statement) : StatementList := { toList := l }

instance : Inhabited StatementList := ⟨ofList []⟩

def push (l : StatementList) (s : Statement) : StatementList := ofList (l.toList ++ [s])

def length (l : StatementList) : Nat := l.toList.length

def isEmpty (l : StatementList) : Bool := l.toList.isEmpty

def propertyCounts (l : StatementList) : SortedMap PropertyId Nat :=
  l.counted.getD (tally l.toList)

theorem propertyCounts_eq (l : StatementList) : l.propertyCounts = tally l.toList := by
  unfold propertyCounts
  cases h : l.counted with
  | none => rfl
  | some c => exact l.counted_eq c h

def withCounts (l : StatementList) : StatementList where
  toList := l.toList
  counted := some l.propertyCounts
  counted_eq c hc := by
    obtain rfl := Option.some.inj hc
    exact l.propertyCounts_eq

def ofProperty (l : StatementList) (p : PropertyId) : List Statement :=
  l.toList.filter (·.property = p)

def nonDeprecated (l : StatementList) : List Statement := l.toList.filter (!·.isDeprecated)

def withGuid? (l : StatementList) (guid : String) : Option Statement :=
  l.toList.find? (·.guid = guid)

def placed (l : StatementList) : List (Statement × Nat) := l.toList.zipIdx

def hasPreferred (l : StatementList) (p : PropertyId) : Bool :=
  l.toList.any fun s => s.property = p && s.rank == .preferred

def isBest (l : StatementList) (s : Statement) : Bool :=
  match s.rank with
  | .preferred => true
  | .normal => !l.hasPreferred s.property
  | .deprecated => false

def best (l : StatementList) : List (Statement × Nat) := l.placed.filter fun e => l.isBest e.1

end StatementList

structure Entity where
  id : EntityId
  statements : StatementList

namespace Entity

def empty (id : EntityId) : Entity := ⟨id, .ofList []⟩

def kind (e : Entity) : EntityKind := e.id.kind

def add (e : Entity) (s : Statement) : Entity := { e with statements := e.statements.push s }

def withCounts (e : Entity) : Entity := { e with statements := e.statements.withCounts }

def toJson (e : Entity) : Json :=
  .object [
    ("id", .text e.id.toString),
    ("statements", .array (e.statements.toList.map (·.toJson)))]

def ofJson? (j : Json) : Option Entity := do
  let r ← j.record? ["id", "statements"]
  return {
    id := ← r.required? "id" (Json.parsed? EntityId.ofString?)
    statements := .ofList (← r.defaulting? "statements" [] (Json.list? Statement.ofJson?)) }

end Entity

end EntityAudit
