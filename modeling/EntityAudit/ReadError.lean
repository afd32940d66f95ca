namespace EntityAudit

inductive ReadError where
  | entityId (text : String)
  | statementGuid (text : String)
  | time (text : String)
  | status (text : String)
  deriving DecidableEq, Repr

namespace ReadError

def message : ReadError → String
  | entityId text => "Invalid entity id: " ++ text
  | statementGuid text => "Invalid statement GUID: " ++ text
  | time text => "Invalid time value: " ++ text
  | status text => "Unknown check status: " ++ text

def orElse {α : Type} (e : ReadError) : Option α → Except ReadError α
  | some a => .ok a
  | none => .error e

end ReadError

end EntityAudit
