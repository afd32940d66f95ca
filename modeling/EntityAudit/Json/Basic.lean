namespace EntityAudit

inductive Json where
  | null
  | bool (b : Bool)
  | integer (n : Int)
  | float (x : Float)
  | text (s : String)
  | array (items : List Json)
  | object (members : List (String × Json))

namespace Json

instance : Inhabited Json := ⟨null⟩

instance : Coe String Json := ⟨text⟩

def member? (name : String) : Json → Option Json
  | object members => (members.reverse.find? (·.1 = name)).map (·.2)
  | _ => none

def ofOption {α : Type} (f : α → Json) : Option α → Json
  | none => null
  | some a => f a

def record (members : List (String × Option Json)) : Json :=
  object (members.filterMap fun (name, value) => value.map fun j => (name, j))

end Json

end EntityAudit
