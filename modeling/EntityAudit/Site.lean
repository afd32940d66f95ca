import EntityAudit.Pages
import EntityAudit.Url.Reader

namespace EntityAudit

structure Site where
  base : Url

namespace Site

def ofBase (base : String) : Except QueryError Site :=
  match Url.read base with
  | .error e => .error (.internal ("Invalid base URL " ++ base ++ ": " ++ e.message))
  | .ok u =>
    match u.path with
    | .plain _ => .error (.internal ("Invalid base URL " ++ u.toString))
    | .segments _ => .ok ⟨u⟩

def pageUrl (s : Site) (title : String) : Except QueryError Url :=
  match s.base.child? title with
  | some u => .ok u
  | none => .error (.internal ("Invalid base URL " ++ s.base.toString))

def unreachable (s : Site) : PageLookup := fun title => do
  let u ← s.pageUrl title
  .error (.transport ("error sending request for url (" ++ u.toString ++ ")"))

end Site

end EntityAudit
