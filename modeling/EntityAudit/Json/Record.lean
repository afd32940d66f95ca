import EntityAudit.Json.Basic
import EntityAudit.Ordered.Map

/-!
Decoding of JSON values. A record is an object with fixed names, or the list of its values in
the order of the names; unknown members are ignored and known ones may occur once.
-/

namespace EntityAudit.Json

def string? : Json → Option String
  | text s => some s
  | _ => none

def bool? : Json → Option Bool
  | bool b => some b
  | _ => none

def float? : Json → Option Float
  | integer n => some (Float.ofInt n)
  | float x => some x
  | _ => none

def natural? (limit : Nat) : Json → Option Nat
  | integer n => if 0 ≤ n ∧ n < limit then some n.toNat else none
  | _ => none

def list? {α : Type} (decode : Json → Option α) : Json → Option (List α)
  | array items => items.mapM decode
  | _ => none

def parsed? {α : Type} (parse : String → Option α) : Json → Option α
  | text s => parse s
  | _ => none

def map? {α β : Type} [Ord α] [Std.TransOrd α] [Std.LawfulEqOrd α]
    (key : String → Option α) (decode : Json → Option β) : Json → Option (SortedMap α β)
  | object members =>
    (members.mapM fun (name, j) => do return (← key name, ← decode j)).map SortedMap.ofList
  | _ => none

def choice? {α : Type} (parse : String → Option α) : Json → Option α
  | text s => parse s
  | object [(s, null)] => parse s
  | _ => none

structure Record where
  get? : String → Option Json

def zipNames? : List String → List Json → Option (List (String × Json))
  | _, [] => some []
  | [], _ :: _ => none
  | name :: names, j :: js => (zipNames? names js).map ((name, j) :: ·)

def lookup (members : List (String × Json)) (name : String) : Option Json :=
  (members.find? (·.1 = name)).map (·.2)

def record? (names : List String) : Json → Option Record
  | object members =>
    if names.all fun name => members.countP (·.1 = name) ≤ 1 then some ⟨lookup members⟩ else none
  | array items => (zipNames? names items).map fun members => ⟨lookup members⟩
  | _ => none

namespace Record

variable {α : Type}

def required? (r : Record) (name : String) (decode : Json → Option α) : Option α :=
  (r.get? name).bind decode

def defaulting? (r : Record) (name : String) (value : α) (decode : Json → Option α) : Option α :=
  match r.get? name with
  | none => some value
  | some j => decode j

def optional? (r : Record) (name : String) (decode : Json → Option α) : Option (Option α) :=
  match r.get? name with
  | none => some none
  | some null => some none
  | some j => (decode j).map some

end Record

def tagged? (tag : String) : Json → Option (String × Json)
  | object members =>
    if members.countP (·.1 = tag) = 1 then do
      let name ← string? (← lookup members tag)
      return (name, object (members.filter (·.1 ≠ tag)))
    else none
  | array (text name :: items) => some (name, array items)
  | _ => none

end EntityAudit.Json
