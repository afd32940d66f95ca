import EntityAudit.GraphQuery
import EntityAudit.Text.Blank

/-!
Pages of a wiki and their titles. A full title has underscores for blanks; a page exists, does not
exist, or cannot be looked up.
-/

namespace EntityAudit

abbrev PageLookup := String → Except QueryError Bool

namespace PageTitle

def underscored (s : String) : String :=
  String.ofList (s.toList.map fun c => if c = ' ' then '_' else c)

def full (pageNamespace title : String) : String :=
  if pageNamespace = "" then underscored title else pageNamespace ++ ":" ++ underscored title

def withoutEscapes : List Char → List Char
  | '%' :: '2' :: '0' :: r => withoutEscapes r
  | c :: r => c :: withoutEscapes r
  | [] => []

def isWellFormed (s : String) : Bool :=
  Text.trim (withoutEscapes ((s.toList.filter (· ≠ '_')).filter (· ≠ ':'))) == s.toList

end PageTitle

structure PageList where
  titles : SortedSet String

namespace PageList

def ofTitles (titles : List String) : PageList := ⟨SortedMap.setOf (titles.map PageTitle.underscored)⟩

def add (l : PageList) (pageNamespace title : String) : PageList :=
  ⟨l.titles.insert (PageTitle.full pageNamespace title) ()⟩

def lookup (l : PageList) : PageLookup := fun title => .ok (l.titles.contains title)

end PageList

namespace PageLookup

def reason (status : Nat) : String :=
  match status with
  | 500 => "Internal Server Error"
  | 501 => "Not Implemented"
  | 502 => "Bad Gateway"
  | 503 => "Service Unavailable"
  | 504 => "Gateway Timeout"
  | 505 => "HTTP Version Not Supported"
  | 506 => "Variant Also Negotiates"
  | 507 => "Insufficient Storage"
  | 508 => "Loop Detected"
  | 510 => "Not Extended"
  | 511 => "Network Authentication Required"
  | _ => "<unknown status code>"

def ofStatus (status : Nat) : Except QueryError Bool :=
  if 500 ≤ status ∧ status < 600 then
    .error (.transport ("Server answered " ++ toString status ++ " " ++ reason status))
  else .ok (status < 400)

end PageLookup

end EntityAudit
