import EntityAudit.Toml.Number
import EntityAudit.Toml.Quoted
import EntityAudit.Toml.Table

/-!
Reading TOML: a document is the object of its keys and tables. Arrays may go over several lines, all
other values and headers are on one line each.
-/

namespace EntityAudit.Toml

def depthLimit : Nat := 80

def skipBlanks (cs : List Char) : List Char := cs.dropWhile isBlank

def skipLines (inComment : Bool) : List Char → List Char
  | [] => []
  | '\r' :: '\n' :: r => skipLines false r
  | c :: r =>
    if c = '\n' then skipLines false r
    else if inComment then if isPlain c then skipLines true r else c :: r
    else if c = '#' then skipLines true r
    else if isBlank c then skipLines false r
    else c :: r

def isBare (c : Char) : Bool := c.isAlphanum || c = '_' || c = '-'

def keyPart? (cs : List Char) : Option (String × List Char) :=
  match Quoted.line? cs with
  | some (t, r) => some (String.ofList t, r)
  | none =>
    let name := cs.takeWhile isBare
    if name.isEmpty then none else some (String.ofList name, cs.dropWhile isBare)

def keyParts? (cs : List Char) : Option (List String × List Char) := do
  let (part, r) ← keyPart? (skipBlanks cs)
  match skipBlanks r with
  | '.' :: r =>
    if _ : r.length < cs.length then
      let (parts, rest) ← keyParts? r
      return (part :: parts, rest)
    else none
  | rest => return ([part], rest)
termination_by cs.length

def key? (cs : List Char) : Option (List String × List Char) :=
  (keyParts? cs).filter (·.1.length < depthLimit)

abbrev ValueReader := List Char → Option (Json × List Char)

def scalar? (cs : List Char) : Option (Json × List Char) :=
  match cs with
  | '"' :: _ => (Quoted.text? cs).map fun (t, r) => (.text (String.ofList t), r)
  | '\'' :: _ => (Quoted.text? cs).map fun (t, r) => (.text (String.ofList t), r)
  | 't' :: 'r' :: 'u' :: 'e' :: r => some (.bool true, r)
  | 'f' :: 'a' :: 'l' :: 's' :: 'e' :: r => some (.bool false, r)
  | _ => moment? cs <|> float? cs <|> integer? cs

def items? (value? : ValueReader) (cs : List Char) : Option (List Json × List Char) :=
  match skipLines false cs with
  | ']' :: r => some ([], r)
  | start => do
    let (j, rest) ← value? start
    match skipLines false rest with
    | ']' :: r => return ([j], r)
    | ',' :: r =>
      if _ : r.length < cs.length then
        let (js, rest) ← items? value? r
        return (j :: js, rest)
      else none
    | _ => none
termination_by cs.length

def pair? (value? : ValueReader) (cs : List Char) : Option ((List String × Json) × List Char) := do
  let (key, r) ← key? cs
  match r with
  | '=' :: r =>
    let (j, rest) ← value? (skipBlanks r)
    return ((key, j), rest)
  | _ => none

def Members.add? (ms : Members) (key : List String) (j : Json) : Option Members := do
  ms.define? (← key.getLast?) j key.dropLast

def pairs? (value? : ValueReader) (ms : Members) (cs : List Char) : Option (Members × List Char) := do
  let ((key, j), rest) ← pair? value? cs
  let ms ← ms.add? key j
  match skipBlanks rest with
  | '\x7d' :: r => return (ms, r)
  | ',' :: r => if _ : r.length < cs.length then pairs? value? ms r else none
  | _ => none
termination_by cs.length

def inlineTable? (value? : ValueReader) (cs : List Char) : Option (Json × List Char) :=
  match skipBlanks cs with
  | '\x7d' :: r => some (.object [], r)
  | r => (pairs? value? [] r).map fun (ms, rest) => (.object (membersJson ms), rest)

def valueWithin? : Nat → ValueReader
  | 0, cs => scalar? cs
  | depth + 1, cs =>
    match cs with
    | '[' :: r => (items? (valueWithin? depth) r).map fun (js, rest) => (.array js, rest)
    | '\x7b' :: r => inlineTable? (valueWithin? depth) r
    | _ => scalar? cs

def value? : ValueReader := valueWithin? (depthLimit - 1)

structure Document where
  members : Members := []
  header : List String := []

def endLine? (cs : List Char) : Option (List Char) :=
  let r := skipBlanks cs
  let r := match r with
    | '#' :: r => r.dropWhile isPlain
    | r => r
  if r.isEmpty then some []
  else if startsLine r then some (dropNewline r)
  else none

namespace Document

def header? (cs : List Char) : Option (List String × List Char) := do
  let (key, r) ← key? cs
  match r with
  | ']' :: r => return (key, r)
  | _ => none

def line? (d : Document) : List Char → Option (Document × List Char)
  | '[' :: '[' :: r => do
    let (key, r) ← header? r
    let rest ← after? ']' r
    return (⟨← d.members.open? Members.addTable? key, key⟩, rest)
  | '[' :: r => do
    let (key, rest) ← header? r
    return (⟨← d.members.open? Members.openTable? key, key⟩, rest)
  | cs => do
    let ((key, j), rest) ← pair? value? cs
    return ({ d with members := ← d.members.within? (·.add? key j) d.header }, rest)

def run? (d : Document) (cs : List Char) : Option Document :=
  match skipLines false cs with
  | [] => some d
  | start => do
    let (d, r) ← d.line? start
    let rest ← endLine? r
    if _ : rest.length < cs.length then d.run? rest else none
termination_by cs.length

end Document

def read? (s : String) : Option Json :=
  let cs := match s.toList with
    | c :: r => if c.toNat = 0xFEFF then r else c :: r
    | [] => []
  (Document.run? {} cs).map fun d => .object (membersJson d.members)

end EntityAudit.Toml
