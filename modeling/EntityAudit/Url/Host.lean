import EntityAudit.Text.Integer
import EntityAudit.Text.Split
import EntityAudit.Unicode.Fold
import EntityAudit.Url.Escape
import EntityAudit.Url.Punycode

/-!
Hosts: names of domains, or addresses of four bytes or of eight groups of 16 bits. A name whose last
part is a number has to be an address.
-/

namespace EntityAudit

inductive UrlError where
  | emptyHost
  | domainName
  | port
  | fourByteAddress
  | eightGroupAddress
  | domainCharacter
  | noScheme
  deriving DecidableEq, Repr

def UrlError.message : UrlError → String
  | emptyHost => "empty host"
  | domainName => "invalid international domain name"
  | port => "invalid port number"
  | fourByteAddress => "invalid IPv4 address"
  | eightGroupAddress => "invalid IPv6 address"
  | domainCharacter => "invalid domain character"
  | noScheme => "relative URL without a base"

namespace Url

inductive Host where
  | domain (name : String)
  | bytes (address : Nat)
  | groups (parts : List Nat)
  deriving DecidableEq, Repr

namespace Host

def digitsOf? (base : Nat) : List Char → Option Nat :=
  List.foldlM (fun n c => (Text.hexDigit? c).bind fun d => if d < base then some (base * n + d) else none) 0

def number? : List Char → Option Nat
  | [] => none
  | '0' :: 'x' :: r => digitsOf? 16 r
  | '0' :: 'X' :: r => digitsOf? 16 r
  | '0' :: r => digitsOf? 8 r
  | cs => digitsOf? 10 cs

def parts (name : List Char) : List (List Char) :=
  let l := Text.splitAll '.' name
  if l.getLast? = some [] then l.dropLast else l

def endsInNumber (name : List Char) : Bool :=
  match (parts name).getLast? with
  | none => false
  | some last => (!last.isEmpty && last.all Text.isDigit) || (number? last).isSome

def bytes? (name : List Char) : Option Nat := do
  let numbers ← (parts name).mapM number?
  let last ← numbers.getLast?
  let leading := numbers.dropLast
  if leading.length ≤ 3 ∧ leading.all (· ≤ 255) ∧ last < Nat.pow 256 (4 - leading.length) then
    return leading.foldl (fun n b => 256 * n + b) 0 * Nat.pow 256 (4 - leading.length) + last
  else none

def bytesText (n : Nat) : String :=
  ".".intercalate ([3, 2, 1, 0].map fun i => toString (n / Nat.pow 256 i % 256))

def group? (cs : List Char) : Option Nat :=
  if cs.isEmpty ∨ 4 < cs.length then none else digitsOf? 16 cs

def byte? : List Char → Option Nat
  | ['0'] => some 0
  | '0' :: _ => none
  | cs => (Text.digits? cs).filter (· ≤ 255)

def groupList? : List (List Char) → Option (List Nat)
  | [] => some []
  | [last] =>
    if last.contains '.' then do
      let [a, b, c, d] ← (Text.splitAll '.' last).mapM byte? | none
      return [256 * a + b, 256 * c + d]
    else (group? last).map ([·])
  | cs :: rest => do return (← group? cs) :: (← groupList? rest)

def splitGap? : List Char → Option (List Char × List Char)
  | [] => none
  | ':' :: ':' :: r => some ([], r)
  | c :: r => (splitGap? r).map fun (a, b) => (c :: a, b)

def groupsBetween? (cs : List Char) : Option (List Nat) :=
  if cs.isEmpty then some [] else groupList? (Text.splitAll ':' cs)

def groups? (cs : List Char) : Option (List Nat) :=
  match splitGap? cs with
  | none => (groupsBetween? cs).filter (·.length = 8)
  | some (a, b) => do
    let before ← if a.contains '.' then none else groupsBetween? a
    let after ← groupsBetween? b
    let n := before.length + after.length
    if n ≤ 7 then return before ++ List.replicate (8 - n) 0 ++ after else none

def groupsText (l : List Nat) : String := ":".intercalate (l.map Text.hexText)

def zeros (l : List Nat) (i : Nat) : Nat := ((l.drop i).takeWhile (· = 0)).length

def shortGroupsText (l : List Nat) : String :=
  let longest := (List.range l.length).foldl (fun n i => max n (zeros l i)) 0
  match (List.range l.length).find? (zeros l · = longest) with
  | some i =>
    if 2 ≤ longest then groupsText (l.take i) ++ "::" ++ groupsText (l.drop (i + longest))
    else groupsText l
  | none => groupsText l

def toString : Host → String
  | domain name => name
  | bytes n => bytesText n
  | groups l => "[" ++ shortGroupsText l ++ "]"

def isIgnored (c : Char) : Bool :=
  let n := c.toNat
  n == 0xAD || n == 0x34F || (0x180B ≤ n && n ≤ 0x180D) || n == 0x200B || n == 0x2060 || n == 0x2064 ||
    (0xFE00 ≤ n && n ≤ 0xFE0F) || n == 0xFEFF

def mapped (c : Char) : Char :=
  let n := c.toNat
  let c := if 0xFF01 ≤ n ∧ n ≤ 0xFF5E then Char.ofNat (n - 0xFEE0) else c
  if n = 0x3002 ∨ n = 0xFF61 then '.'
  else if c.toNat = 0x3C2 then c
  else Char.ofNat (Unicode.Fold.apply c.toNat)

def labelText (label : List Char) : List Char :=
  if label.all (·.toNat < 0x80) then label else ['x', 'n', '-', '-'] ++ Punycode.encode label

def isForbidden (c : Char) : Bool :=
  c.toNat ≤ 0x20 || c.toNat == 0x7F ||
    ['#', '%', '/', ':', '<', '>', '?', '@', '[', '\\', ']', '^', '|'].contains c

def bracketed? : List Char → Option (List Char)
  | '[' :: r => if r.getLast? = some ']' then some r.dropLast else none
  | _ => none

def readGroups (cs : List Char) : Except UrlError Host :=
  match (bracketed? cs).bind groups? with
  | some l => .ok (groups l)
  | none => .error .eightGroupAddress

def read (cs : List Char) : Except UrlError Host :=
  if cs.head? = some '[' then readGroups cs
  else
    match decode? cs with
    | none => .error .domainName
    | some cs =>
      let cs := (cs.filter (!isIgnored ·)).map mapped
      let name := List.intercalate ['.'] ((Text.splitAll '.' cs).map labelText)
      if name.isEmpty then .error .emptyHost
      else if name.any isForbidden then .error .domainName
      else if endsInNumber name then
        match bytes? name with
        | some n => .ok (bytes n)
        | none => .error .fourByteAddress
      else .ok (domain (String.ofList name))

def isForbiddenInUnknown (c : Char) : Bool :=
  [0, 9, 10, 13].contains c.toNat ||
    [' ', '#', '/', ':', '<', '>', '?', '@', '[', '\\', ']', '^', '|'].contains c

def readUnknown (cs : List Char) : Except UrlError Host :=
  if cs.head? = some '[' then readGroups cs
  else if cs.any isForbiddenInUnknown then .error .domainCharacter
  else .ok (domain (String.ofList (encode isControl cs)))

end Host

end Url

end EntityAudit
