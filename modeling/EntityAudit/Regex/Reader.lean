import EntityAudit.Regex.Bracket

/-!
Reading patterns. The reader goes through the text once and keeps the groups that are open; flags
that are set within a group hold to its end. Look-around and references to groups are not part of
the language, so matching never has to try one way after another.
-/

namespace EntityAudit.Pattern

structure Piece where
  regex : Regex
  isRepeatable : Bool := true
  depth : Nat := 0
  states : Nat := 1

namespace Piece

def flags : Piece := { regex := .empty, isRepeatable := false }

def ofSet (s : CharSet) (depth : Nat) : Piece :=
  { regex := .set s.contains, depth, states := 2 * s.spans }

def ofChar (f : Flags) (c : Char) : Piece :=
  if f.caseInsensitive then ofSet (OpenClass.foldCase f (CharSet.single c)) 0
  else { regex := .set (· == c), states := c.utf8Size }

def ofAtom (f : Flags) : Atom → Piece
  | .char c => ofChar f c
  | .set s => ofSet s 0
  | .look l => { regex := .look l }

def dot? (f : Flags) : Option Piece :=
  if !f.unicode then none
  else
    let excluded := if f.dotMatchesNewline then [] else if f.carriageReturns then ['\r', '\n'] else ['\n']
    some (ofSet ⟨fun c => !excluded.contains c, 7⟩ 0)

def statesOf (ps : List Piece) : Nat := ps.foldl (fun n p => n + p.states) 0

def sequence : List Piece → Piece
  | [] => { regex := .empty, isRepeatable := false }
  | [p] => p
  | p :: ps => {
      regex := ps.foldl (fun r q => .seq r q.regex) p.regex
      depth := 1 + OpenClass.deepest ((p :: ps).map (·.depth))
      states := statesOf (p :: ps) }

def alternatives : List Piece → Piece
  | [] => { regex := .empty }
  | [p] => p
  | p :: ps => {
      regex := ps.foldl (fun r q => .alt r q.regex) p.regex
      depth := 1 + OpenClass.deepest ((p :: ps).map (·.depth))
      states := statesOf (p :: ps) + 2 }

def group (p : Piece) : Piece :=
  { regex := p.regex, depth := p.depth + 1, states := p.states + 2 }

def times (p : Piece) (least : Nat) (most : Option Nat) : Piece where
  regex := .times p.regex least most
  depth := p.depth + 1
  states := match most with
    | none => max least 1 * p.states + 2
    | some n => max 1 (least * p.states) + (n - least) * (p.states + 2)

end Piece

structure OpenGroup where
  flags : Flags
  branches : List Piece
  pieces : List Piece

structure Reader where
  around : List OpenGroup := []
  flags : Flags := {}
  branches : List Piece := []
  pieces : List Piece := []
  names : List (List Char) := []

namespace Reader

def add (s : Reader) (p : Piece) : Reader := { s with pieces := p :: s.pieces }

def body (s : Reader) : Piece :=
  Piece.alternatives (Piece.sequence s.pieces.reverse :: s.branches).reverse

def alternative (s : Reader) : Reader :=
  { s with branches := Piece.sequence s.pieces.reverse :: s.branches, pieces := [] }

def openGroup (s : Reader) (flags : Flags) : Reader :=
  { s with around := ⟨s.flags, s.branches, s.pieces⟩ :: s.around, flags, branches := [], pieces := [] }

def closeGroup? (s : Reader) : Option Reader :=
  match s.around with
  | [] => none
  | g :: around => some { s with
      around, flags := g.flags, branches := g.branches, pieces := s.body.group :: g.pieces }

def repeat? (s : Reader) (least : Nat) (most : Option Nat) : Option Reader :=
  match s.pieces with
  | [] => none
  | p :: ps => if p.isRepeatable then some { s with pieces := p.times least most :: ps } else none

/-- A question mark behind a repetition prefers the shorter match. This does not change whether
there is one. Blanks stay where they are if there is none. -/
def dropLazy (verbose : Bool) (cs : List Char) : List Char :=
  match skip verbose cs with
  | '?' :: r => r
  | _ => cs

def number (verbose : Bool) (cs : List Char) : Option Nat × List Char :=
  let (digits, rest) := run verbose Text.isDigit (cs.dropWhile Text.isBlank)
  (Text.natural? UInt32.size digits, skip verbose (rest.dropWhile Text.isBlank))

def given? (least : Nat) : Option Nat × List Char → Option (Option Nat × List Char)
  | (some n, '\x7d' :: r) => if least ≤ n then some (some n, r) else none
  | _ => none

def most? (verbose : Bool) (least : Nat) (cs : List Char) : Option (Option Nat × List Char) :=
  match skip verbose cs with
  | '\x7d' :: r => some (none, r)
  | cs => given? least (number verbose cs)

def least? (verbose : Bool) : Option Nat × List Char → Option ((Nat × Option Nat) × List Char)
  | (some n, '\x7d' :: r) => some ((n, some n), r)
  | (some n, ',' :: r) => (most? verbose n r).map fun (most, rest) => ((n, most), rest)
  | _ => none

def counts? (verbose : Bool) (cs : List Char) : Option ((Nat × Option Nat) × List Char) :=
  least? verbose (number verbose (skip verbose cs))

def isNameStart (c : Char) : Bool := c = '_' || Unicode.within Unicode.Property.alphabetic c

def isNamePart (c : Char) : Bool :=
  isNameStart c || c = '.' || c = '[' || c = ']' ||
    CharSet.number.any fun table => Unicode.within table c

def isNew (s : Reader) (name : List Char) : Bool :=
  name.head?.any isNameStart && name.all isNamePart && !s.names.contains name

def name? (s : Reader) (cs : List Char) : Option (List Char × List Char) :=
  let name := cs.takeWhile (· ≠ '>')
  match cs.dropWhile (· ≠ '>') with
  | [] => none
  | _ :: rest => if s.isNew name then some (name, rest) else none

def named? (s : Reader) (cs : List Char) : Option (Reader × List Char) :=
  (s.name? cs).map fun (name, rest) => ({ s with names := name :: s.names }.openGroup s.flags, rest)

def flagged? (s : Reader) (letters : List Char) (last : Char) : Option Reader :=
  let flags := s.flags.change letters
  if last = ':' then some (s.openGroup flags)
  else if letters.isEmpty then none
  else some ({ s with flags }.add .flags)

def marked? (s : Reader) : List Char → Option (Reader × List Char)
  | 'P' :: '<' :: r => s.named? r
  | '<' :: r => s.named? r
  | r =>
    (Flags.read? [] r).bind fun ((letters, last), rest) =>
      (s.flagged? letters last).map fun next => (next, rest)

def group? (s : Reader) (cs : List Char) : Option (Reader × List Char) :=
  match skip s.flags.verbose cs with
  | '?' :: r => s.marked? r
  | _ => some (s.openGroup s.flags, cs)

def step? (s : Reader) (c : Char) (r : List Char) : Option (Reader × List Char) :=
  match c with
  | '(' => group? s r
  | ')' => s.closeGroup?.map fun s => (s, r)
  | '|' => some (s.alternative, r)
  | '?' => (s.repeat? 0 (some 1)).map fun s => (s, dropLazy false r)
  | '*' => (s.repeat? 0 none).map fun s => (s, dropLazy false r)
  | '+' => (s.repeat? 1 none).map fun s => (s, dropLazy false r)
  | '\x7b' =>
    (counts? s.flags.verbose r).bind fun ((least, most), rest) =>
      (s.repeat? least most).map fun next => (next, dropLazy s.flags.verbose rest)
  | '[' => (ClassPart.read? s.flags r).map fun (part, rest) => (s.add (.ofSet part.set part.depth), rest)
  | '\\' => (Atom.escape? s.flags r).map fun (a, rest) => (s.add (.ofAtom s.flags a), rest)
  | '.' => (Piece.dot? s.flags).map fun p => (s.add p, r)
  | '^' => some (s.add (.ofAtom s.flags (.lineStart s.flags)), r)
  | '$' => some (s.add (.ofAtom s.flags (.lineEnd s.flags)), r)
  | c => some (s.add (.ofChar s.flags c), r)

def run? (s : Reader) (cs : List Char) : Option Reader :=
  match _h : skip s.flags.verbose cs with
  | [] => some s
  | c :: r =>
    match s.step? c r with
    | none => none
    | some (next, rest) => if _ : rest.length ≤ r.length then run? next rest else none
termination_by cs.length
decreasing_by
  have := length_skip_le s.flags.verbose cs
  rw [_h, List.length_cons] at this
  omega

def depthLimit : Nat := 250

def stateLimit : Nat := 327680

def fits (s : Reader) : Bool := s.body.depth ≤ depthLimit && s.body.states ≤ stateLimit

def finish? (s : Reader) : Option Regex := if s.around.isEmpty then some s.body.regex else none

end Reader

def regex? (pattern : String) : Option Regex := do (← Reader.run? {} pattern.toList).finish?

def fits (pattern : String) : Bool := (Reader.run? {} pattern.toList).any Reader.fits

def read? (pattern : String) : Option Regex := do
  let s ← Reader.run? {} pattern.toList
  if s.fits then s.finish? else none

end EntityAudit.Pattern
