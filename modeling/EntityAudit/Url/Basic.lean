import EntityAudit.Url.Host

namespace EntityAudit

namespace Url

inductive Path where
  | plain (text : String)
  | segments (l : List String)
  deriving DecidableEq, Repr

namespace Path

def isDot (segment : String) : Bool := [".", "%2e"].contains segment.toLower

def isDoubleDot (segment : String) : Bool := ["..", ".%2e", "%2e.", "%2e%2e"].contains segment.toLower

def enter (l : List String) (segment : String) : List String :=
  if isDoubleDot segment then l.dropLast else if isDot segment then l else l ++ [segment]

def finish (l : List String) (segment : String) : List String :=
  if isDoubleDot segment then l.dropLast ++ [""]
  else if isDot segment then l ++ [""]
  else l ++ [segment]

def walk (l : List String) : List String → List String
  | [] => l
  | [segment] => finish l segment
  | segment :: rest => walk (enter l segment) rest

def toString : Path → String
  | plain text => text
  | segments l => String.join (l.map ("/" ++ ·))

end Path

def usualPort? (scheme : String) : Option Nat :=
  match scheme with
  | "http" | "ws" => some 80
  | "https" | "wss" => some 443
  | "ftp" => some 21
  | _ => none

def isKnown (scheme : String) : Bool := scheme = "file" || (usualPort? scheme).isSome

structure Authority where
  user : String := ""
  host : Option Host
  port : Option Nat := none
  deriving DecidableEq, Repr

def Authority.toString (a : Authority) : String :=
  "//" ++ (if a.user = "" then "" else a.user ++ "@") ++ ((a.host.map (·.toString)).getD "") ++
    ((a.port.map fun n => ":" ++ ToString.toString n).getD "")

end Url

structure Url where
  scheme : String
  authority : Option Url.Authority
  path : Url.Path
  query : Option String := none
  fragment : Option String := none
  deriving DecidableEq, Repr

namespace Url

/-- Without an authority a path of two slashes is kept apart from one by a dot. -/
def pathText (u : Url) : String :=
  match u.authority, u.path with
  | none, .segments ("" :: s :: l) => "/." ++ (Path.segments ("" :: s :: l)).toString
  | _, p => p.toString

def toString (u : Url) : String :=
  u.scheme ++ ":" ++ ((u.authority.map (·.toString)).getD "") ++ u.pathText ++
    ((u.query.map ("?" ++ ·)).getD "") ++ ((u.fragment.map ("#" ++ ·)).getD "")

def isTabOrNewline (c : Char) : Bool := c = '\t' || c = '\n' || c = '\r'

def isEscapedInSegmentOf (scheme : String) (c : Char) : Bool :=
  isEscapedInSegment c || (isKnown scheme && c = '\\')

def child? (u : Url) (name : String) : Option Url :=
  match u.path with
  | .plain _ => none
  | .segments l =>
    let parent := if 1 < l.length ∧ l.getLast? = some "" then l.dropLast else l
    if name = "." ∨ name = ".." then some { u with path := .segments parent }
    else
      let segment := encode (isEscapedInSegmentOf u.scheme) (name.toList.filter (!isTabOrNewline ·))
      let l := if parent = [""] then [] else parent
      some { u with path := .segments (Path.finish l (String.ofList segment)) }

end Url

end EntityAudit
