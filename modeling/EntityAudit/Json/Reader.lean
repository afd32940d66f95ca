import EntityAudit.Json.Token

namespace EntityAudit.Json

inductive Frame where
  | items (done : List Json)
  | members (done : List (String × Json)) (name : String)

inductive Reader where
  | value (outer : List Frame)
  | itemOrEnd (outer : List Frame)
  | afterItem (done : List Json) (outer : List Frame)
  | nameOrEnd (outer : List Frame)
  | nextName (done : List (String × Json)) (outer : List Frame)
  | beforeValue (done : List (String × Json)) (name : String) (outer : List Frame)
  | afterMember (done : List (String × Json)) (outer : List Frame)

inductive Progress where
  | more (reader : Reader)
  | finished (j : Json)

namespace Reader

def depthLimit : Nat := 127

def complete (j : Json) : List Frame → Progress
  | [] => .finished j
  | .items done :: outer => .more (.afterItem (j :: done) outer)
  | .members done name :: outer => .more (.afterMember ((name, j) :: done) outer)

def beginValue? (outer : List Frame) : Token → Option Progress
  | .openArray => if outer.length < depthLimit then some (.more (.itemOrEnd outer)) else none
  | .openObject => if outer.length < depthLimit then some (.more (.nameOrEnd outer)) else none
  | .text s => some (complete (.text s) outer)
  | .scalar j => some (complete j outer)
  | _ => none

def accept? : Reader → Token → Option Progress
  | .value outer, t => beginValue? outer t
  | .itemOrEnd outer, .closeArray => some (complete (.array []) outer)
  | .itemOrEnd outer, t => beginValue? (.items [] :: outer) t
  | .afterItem done outer, .comma => some (.more (.value (.items done :: outer)))
  | .afterItem done outer, .closeArray => some (complete (.array done.reverse) outer)
  | .nameOrEnd outer, .closeObject => some (complete (.object []) outer)
  | .nameOrEnd outer, .text s => some (.more (.beforeValue [] s outer))
  | .nextName done outer, .text s => some (.more (.beforeValue done s outer))
  | .beforeValue done name outer, .colon => some (.more (.value (.members done name :: outer)))
  | .afterMember done outer, .comma => some (.more (.nextName done outer))
  | .afterMember done outer, .closeObject => some (complete (.object done.reverse) outer)
  | _, _ => none

def run? (s : Reader) (cs : List Char) : Option (Json × List Char) :=
  match h : Token.next? cs with
  | none => none
  | some (t, r) =>
    have := Token.next?_shorter h
    match s.accept? t with
    | none => none
    | some (.finished j) => some (j, r)
    | some (.more s') => run? s' r
termination_by cs.length

end Reader

def read? (cs : List Char) : Option (Json × List Char) := Reader.run? (.value []) cs

def ofString? (s : String) : Option Json :=
  match read? s.toList with
  | some (j, r) => if r.all Token.isBlank then some j else none
  | none => none

end EntityAudit.Json
