import EntityAudit.Url.Basic

/-!
Reading URLs. White space and control characters around a text and tabs and newlines within it are
left out; what may not stand for itself is escaped.
-/

namespace EntityAudit.Url

def scheme? (cs : List Char) : Option (String × List Char) :=
  match Text.splitOnce? ':' cs with
  | some (c :: name, r) =>
    if c.isAlpha ∧ name.all (fun c => c.isAlphanum || c = '+' || c = '-' || c = '.') then
      some ((String.ofList (c :: name)).toLower, r)
    else none
  | _ => none

def isSlash (known : Bool) (c : Char) : Bool := c = '/' || (known && c = '\\')

def endsAuthority (known : Bool) (c : Char) : Bool := isSlash known c || c = '?' || c = '#'

def userText (cs : List Char) : String :=
  match Text.splitOnce? ':' cs with
  | none => String.ofList (encode isEscapedInUser cs)
  | some (user, []) => String.ofList (encode isEscapedInUser user)
  | some (user, password) =>
    String.ofList (encode isEscapedInUser user ++ ':' :: encode isEscapedInUser password)

def splitHost (inBrackets : Bool) : List Char → List Char × List Char
  | [] => ([], [])
  | c :: r =>
    if c = ':' ∧ !inBrackets then ([], c :: r)
    else
      let (host, rest) := splitHost (if c = '[' then true else if c = ']' then false else inBrackets) r
      (c :: host, rest)

def readPort (scheme : String) (digits : List Char) : Except UrlError (Option Nat) :=
  if digits.isEmpty then .ok none
  else
    match (Text.digits? digits).filter (· < UInt16.size) with
    | none => .error .port
    | some n => .ok (if usualPort? scheme = some n then none else some n)

def readHost (scheme : String) (cs : List Char) : Except UrlError Host :=
  if isKnown scheme then Host.read cs else Host.readUnknown cs

def readAuthority (scheme : String) (cs : List Char) : Except UrlError Authority := do
  let known := isKnown scheme
  let (user, rest) := (Text.splitLast? '@' cs).getD ([], cs)
  let (name, behind) := splitHost false rest
  let a : Authority := { user := userText user, host := none }
  match name, behind with
  | [], [] => if known ∨ a.user ≠ "" then .error .emptyHost else return a
  | [], _ => .error .emptyHost
  | name, [] => return { a with host := ← readHost scheme name }
  | name, _ :: digits =>
    let h ← readHost scheme name
    return { a with host := h, port := ← readPort scheme digits }

def segments (known : Bool) (cs : List Char) : List String :=
  let marked := (encode isEscapedInPath cs).map fun c => if isSlash known c then '/' else c
  Path.walk [] ((Text.splitAll '/' marked).map String.ofList)

def dropSlash (known : Bool) : List Char → List Char
  | c :: r => if isSlash known c then r else c :: r
  | [] => []

def dropEmpty : List String → List String
  | "" :: s :: l => dropEmpty (s :: l)
  | l => l

def startsWithTwo (known : Bool) : List Char → Bool
  | c :: d :: _ => isSlash known c && isSlash known d
  | _ => false

def readFile (cs : List Char) : Except UrlError (Authority × Path) := do
  let path (cs : List Char) : Path := .segments (dropEmpty (segments true (dropSlash true cs)))
  if startsWithTwo true cs then
    let rest := cs.drop 2
    let name := rest.takeWhile (!endsAuthority true ·)
    let behind := rest.dropWhile (!endsAuthority true ·)
    if name.isEmpty then return ({ host := none }, path behind)
    else
      let h ← Host.read name
      return ({ host := if h = .domain "localhost" then none else some h }, path behind)
  else return ({ host := none }, path cs)

def readPlace (scheme : String) (cs : List Char) : Except UrlError (Option Authority × Path) := do
  let known := isKnown scheme
  if scheme = "file" then
    let (a, p) ← readFile cs
    return (some a, p)
  else if known ∨ startsWithTwo false cs then
    let rest := if known then cs.dropWhile (isSlash true) else cs.drop 2
    let a ← readAuthority scheme (rest.takeWhile (!endsAuthority known ·))
    let behind := rest.dropWhile (!endsAuthority known ·)
    if !known ∧ behind.isEmpty then return (some a, .segments [])
    else return (some a, .segments (segments known (dropSlash known behind)))
  else
    match cs with
    | '/' :: r => return (none, .segments (segments false r))
    | cs => return (none, .plain (String.ofList (encode isControl cs)))

def isOuterBlank (c : Char) : Bool := c.toNat ≤ 0x20

def cutAt (sep : Char) (cs : List Char) : List Char × Option (List Char) :=
  match Text.splitOnce? sep cs with
  | some (a, b) => (a, some b)
  | none => (cs, none)

def read (s : String) : Except UrlError Url := do
  let cs := (((s.toList.dropWhile isOuterBlank).reverse.dropWhile isOuterBlank).reverse).filter
    (!isTabOrNewline ·)
  match scheme? cs with
  | none => .error .noScheme
  | some (scheme, rest) =>
    let (rest, fragment) := cutAt '#' rest
    let (rest, query) := cutAt '?' rest
    let (authority, path) ← readPlace scheme rest
    let escapedInQuery (c : Char) : Bool := isEscapedInQuery c || (isKnown scheme && c = '\'')
    return {
      scheme, authority, path
      query := query.map fun cs => String.ofList (encode escapedInQuery cs)
      fragment := fragment.map fun cs => String.ofList (encode isEscapedInFragment cs) }

end EntityAudit.Url
