import EntityAudit.Regex.Escape

namespace EntityAudit.Pattern

structure ClassPart where
  set : CharSet
  depth : Nat := 0

inductive SetOperation where
  | intersection
  | difference
  | symmetricDifference

namespace SetOperation

def apply : SetOperation → CharSet → CharSet → CharSet
  | intersection, s, t => s.intersection t
  | difference, s, t => s.difference t
  | symmetricDifference, s, t => s.symmetricDifference t

end SetOperation

structure OpenClass where
  negated : Bool
  pending : Option (SetOperation × ClassPart) := none
  parts : List ClassPart := []

namespace OpenClass

def foldCase (f : Flags) (s : CharSet) : CharSet :=
  if f.caseInsensitive then (if f.unicode then s.folded else s.foldedAscii) else s

def add (o : OpenClass) (p : ClassPart) : OpenClass := { o with parts := p :: o.parts }

def deepest (l : List Nat) : Nat := l.foldl max 0

def joined (o : OpenClass) : ClassPart :=
  match o.parts with
  | [p] => p
  | parts =>
    let extra := if parts.isEmpty then 0 else 1
    ⟨parts.foldr (fun p s => s.union p.set) CharSet.empty, extra + deepest (parts.map (·.depth))⟩

def combined (f : Flags) (o : OpenClass) : ClassPart :=
  let right := o.joined
  match o.pending with
  | none => right
  | some (operation, left) =>
    ⟨operation.apply (foldCase f left.set) (foldCase f right.set), 1 + max left.depth right.depth⟩

def operate (f : Flags) (o : OpenClass) (operation : SetOperation) : OpenClass :=
  { o with pending := some (operation, o.combined f), parts := [] }

def close? (f : Flags) (o : OpenClass) : Option ClassPart :=
  let part := o.combined f
  if o.negated && !f.unicode then none
  else some ⟨(foldCase f part.set).negatedIf o.negated, part.depth + 1⟩

end OpenClass

namespace ClassPart

def ofChar? (f : Flags) (c : Char) : Option ClassPart :=
  if f.unicode || c.toNat < 128 then some { set := CharSet.single c } else none

def negation (verbose : Bool) (cs : List Char) : Bool × List Char :=
  match skip verbose cs with
  | '^' :: r => (true, skip verbose r)
  | cs => (false, cs)

def literalBracket (verbose : Bool) : List Char × List Char → List Char × List Char
  | ([], ']' :: r) => ([']'], skip verbose r)
  | split => split

def literals (verbose : Bool) (cs : List Char) : List Char × List Char :=
  literalBracket verbose (run verbose (· = '-') cs)

def openBracket? (f : Flags) (cs : List Char) : Option (OpenClass × List Char) :=
  let (negated, cs) := negation f.verbose cs
  let (chars, cs) := literals f.verbose cs
  if cs.isEmpty then none
  else some ({ negated, parts := chars.map fun c => { set := CharSet.single c } }, cs)

def className? (cs : List Char) : Option (CharSet × List Char) :=
  match cs.dropWhile (· ≠ ':') with
  | ':' :: ']' :: rest =>
    (CharSet.asciiClasses.find? (·.1.toList = cs.takeWhile (· ≠ ':'))).map fun e => (e.2, rest)
  | _ => none

def named? : List Char → Option (CharSet × Bool × List Char)
  | ':' :: '^' :: r => (className? r).map fun (s, rest) => (s, true, rest)
  | ':' :: r => (className? r).map fun (s, rest) => (s, false, rest)
  | _ => none

def atom? (f : Flags) : List Char → Option (Atom × List Char)
  | [] => none
  | '\\' :: r => Atom.escape? f r
  | c :: r => some (.char c, r)

def ofAtom? (f : Flags) : Atom → Option ClassPart
  | .char c => ofChar? f c
  | .set s => some { set := s }
  | .look _ => none

def between? (f : Flags) : Atom → Atom → Option ClassPart
  | .char low, .char high => do
    if high < low then none
    else
      let _ ← ofChar? f low
      let _ ← ofChar? f high
      return { set := CharSet.between low high }
  | _, _ => none

def isRange (f : Flags) : List Char → Bool
  | '-' :: r => !(skip f.verbose r).head?.any fun c => c = ']' || c = '-'
  | _ => false

def range? (f : Flags) (cs : List Char) : Option (ClassPart × List Char) := do
  let (first, cs) ← atom? f cs
  let next := skip f.verbose cs
  if next.isEmpty then none
  else if isRange f next then
    let (second, rest) ← atom? f (skip f.verbose next.tail)
    return (← between? f first second, rest)
  else return (← ofAtom? f first, next)

def step? (f : Flags) (o : OpenClass) (around : List OpenClass) :
    List Char → Option ((OpenClass × List OpenClass) × List Char)
  | [] => none
  | '[' :: r =>
    match named? r with
    | some (s, negated, rest) =>
      if negated && !f.unicode then none
      else some ((o.add { set := (OpenClass.foldCase f s).negatedIf negated }, around), rest)
    | none => (openBracket? f r).map fun (inner, rest) => ((inner, o :: around), rest)
  | ']' :: r =>
    match around with
    | [] => none
    | outer :: around => (o.close? f).map fun part => ((outer.add part, around), r)
  | '&' :: '&' :: r => some ((o.operate f .intersection, around), r)
  | '-' :: '-' :: r => some ((o.operate f .difference, around), r)
  | '~' :: '~' :: r => some ((o.operate f .symmetricDifference, around), r)
  | cs => (range? f cs).map fun (part, rest) => ((o.add part, around), rest)

def rest? (f : Flags) (o : OpenClass) (around : List OpenClass) (cs : List Char) :
    Option (ClassPart × List Char) :=
  match skip f.verbose cs with
  | [] => none
  | c :: r =>
    if c = ']' && around.isEmpty then (o.close? f).map fun part => (part, r)
    else
      match step? f o around (c :: r) with
      | none => none
      | some ((o, around), rest) => if rest.length < cs.length then rest? f o around rest else none
termination_by cs.length

def read? (f : Flags) (cs : List Char) : Option (ClassPart × List Char) := do
  let (o, cs) ← openBracket? f cs
  rest? f o [] cs

end ClassPart

end EntityAudit.Pattern
