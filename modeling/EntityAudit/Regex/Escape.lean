import EntityAudit.Regex.Basic
import EntityAudit.Regex.CharSet
import EntityAudit.Text.Blank
import EntityAudit.Text.Integer

/-!
The smallest parts of a pattern: flags, and what a backslash and the characters behind it stand
for. In a verbose pattern blanks and comments count nowhere.
-/

namespace EntityAudit.Pattern

structure Flags where
  caseInsensitive : Bool := false
  multiLine : Bool := false
  dotMatchesNewline : Bool := false
  carriageReturns : Bool := false
  unicode : Bool := true
  verbose : Bool := false

namespace Flags

def set (f : Flags) (value : Bool) : Char → Flags
  | 'i' => { f with caseInsensitive := value }
  | 'm' => { f with multiLine := value }
  | 's' => { f with dotMatchesNewline := value }
  | 'R' => { f with carriageReturns := value }
  | 'u' => { f with unicode := value }
  | 'x' => { f with verbose := value }
  | _ => f

def change (f : Flags) (letters : List Char) : Flags :=
  let on := letters.takeWhile (· ≠ '-')
  let off := (letters.dropWhile (· ≠ '-')).drop 1
  off.foldl (·.set false ·) (on.foldl (·.set true ·) f)

def read? (seen : List Char) : List Char → Option ((List Char × Char) × List Char)
  | [] => none
  | c :: r =>
    if c = ':' ∨ c = ')' then
      if seen.head? = some '-' then none else some ((seen.reverse, c), r)
    else if ['i', 'm', 's', 'U', 'u', 'R', 'x', '-'].contains c ∧ c ∉ seen then read? (c :: seen) r
    else none

end Flags

def dropBlanks (inComment : Bool) : List Char → List Char
  | [] => []
  | c :: r =>
    if inComment then dropBlanks (c ≠ '\n') r
    else if Text.isBlank c then dropBlanks false r
    else if c = '#' then dropBlanks true r
    else c :: r

def skip (verbose : Bool) (cs : List Char) : List Char :=
  if verbose then dropBlanks false cs else cs

theorem length_dropBlanks_le (inComment : Bool) (cs : List Char) :
    (dropBlanks inComment cs).length ≤ cs.length := by
  induction cs generalizing inComment with
  | nil => simp [dropBlanks]
  | cons c r ih =>
    unfold dropBlanks
    have := ih (c ≠ '\n')
    have := ih false
    have := ih true
    split
    · simp_all; omega
    · split
      · simp; omega
      · split
        · simp; omega
        · simp

theorem length_skip_le (verbose : Bool) (cs : List Char) : (skip verbose cs).length ≤ cs.length := by
  unfold skip
  split
  · exact length_dropBlanks_le false cs
  · exact Nat.le_refl _

def run (verbose : Bool) (p : Char → Bool) (cs : List Char) : List Char × List Char :=
  match cs with
  | [] => ([], [])
  | c :: r =>
    if p c then
      let (l, rest) := run verbose p (skip verbose r)
      (c :: l, rest)
    else ([], c :: r)
termination_by cs.length
decreasing_by
  have := length_skip_le verbose r
  simp; omega

def braced? (verbose : Bool) (cs : List Char) : Option (List Char × List Char) :=
  match run verbose (· ≠ '\x7d') (skip verbose cs) with
  | (_, []) => none
  | (l, _ :: rest) => some (l, rest)

def hexDigits? (verbose : Bool) : Nat → List Char → Option (List Char × List Char)
  | 0, cs => some ([], cs)
  | n + 1, cs =>
    match skip verbose cs with
    | [] => none
    | c :: r =>
      if (Text.hexDigit? c).isSome then
        (hexDigits? verbose n r).map fun (l, rest) => (c :: l, rest)
      else none

inductive Atom where
  | char (c : Char)
  | set (s : CharSet)
  | look (l : Spot → Bool)

namespace Atom

def atStart (s : Spot) : Bool := s.before.isNone

def atEnd (s : Spot) : Bool := s.after.isNone

def atLineStart (carriageReturns : Bool) (s : Spot) : Bool :=
  s.before.isNone || s.before == some '\n' ||
    (carriageReturns && s.before == some '\r' && s.after != some '\n')

def atLineEnd (carriageReturns : Bool) (s : Spot) : Bool :=
  if carriageReturns then
    s.after.isNone || s.after == some '\r' || (s.after == some '\n' && s.before != some '\r')
  else s.after.isNone || s.after == some '\n'

def lineStart (f : Flags) : Atom :=
  look (if f.multiLine then atLineStart f.carriageReturns else atStart)

def lineEnd (f : Flags) : Atom :=
  look (if f.multiLine then atLineEnd f.carriageReturns else atEnd)

def words (f : Flags) (s : Spot) : Bool × Bool :=
  let word := if f.unicode then CharSet.word else CharSet.asciiWord
  (s.before.any word.contains, s.after.any word.contains)

def wordStart (f : Flags) : Atom := look fun s => words f s == (false, true)

def wordEnd (f : Flags) : Atom := look fun s => words f s == (true, false)

def wordBoundary (f : Flags) : Atom := look fun s => (words f s).1 != (words f s).2

def insideOrOutsideWords (f : Flags) : Atom := look fun s => (words f s).1 == (words f s).2

def namedBoundary? (f : Flags) (name : List Char) : Option Atom :=
  match String.ofList name with
  | "start" => some (wordStart f)
  | "end" => some (wordEnd f)
  | "start-half" => some (look fun s => !(words f s).1)
  | "end-half" => some (look fun s => !(words f s).2)
  | _ => none

def isBoundaryName (c : Char) : Bool := c.isAlpha || c = '-'

def boundaryName? (f : Flags) (cs : List Char) : Option (Atom × List Char) :=
  match run f.verbose isBoundaryName cs with
  | (name, '\x7d' :: rest) => (namedBoundary? f name).map fun a => (a, rest)
  | _ => none

def namesBoundary (f : Flags) : List Char → Bool
  | '\x7b' :: r => (skip f.verbose r).head?.any isBoundaryName
  | _ => false

def boundary? (f : Flags) (cs : List Char) : Option (Atom × List Char) :=
  if namesBoundary f cs then boundaryName? f (skip f.verbose cs.tail) else some (wordBoundary f, cs)

def ofHex? (digits : List Char) : Option Atom := do
  let n ← Text.hex? digits
  if n.isValidChar then some (char (Char.ofNat n)) else none

def byNumber? (f : Flags) (width : Nat) (cs : List Char) : Option (Atom × List Char) :=
  match skip f.verbose cs with
  | '\x7b' :: r => do
    let (digits, rest) ← braced? f.verbose r
    return (← ofHex? digits, rest)
  | r => do
    let (digits, rest) ← hexDigits? f.verbose width r
    if !f.unicode && width = 2 && (Text.hex? digits).all (127 < ·) then none
    else return (← ofHex? digits, rest)

def negated? (f : Flags) (negated : Bool) (s : CharSet) : Option Atom :=
  if negated && !f.unicode then none else some (set (s.negatedIf negated))

def property? (f : Flags) (negated : Bool) (cs : List Char) : Option (Atom × List Char) := do
  let (s, rest) ← named? (skip f.verbose cs)
  if !f.unicode then none
  else
    let s := if f.caseInsensitive then s.folded else s
    return (set (s.negatedIf negated), rest)
where
  cutAt (marker : List Char) : List Char → Option (List Char × List Char)
    | [] => none
    | c :: r =>
      if marker.isPrefixOf (c :: r) then some ([], (c :: r).drop marker.length)
      else (cutAt marker r).map fun (l, rest) => (c :: l, rest)
  ofName? (name : List Char) : Option CharSet :=
    match (cutAt ['!', '='] name).or ((cutAt [':'] name).or (cutAt ['='] name)) with
    | some (property, value) => CharSet.withValue? property value
    | none => CharSet.named? name
  named? : List Char → Option (CharSet × List Char)
    | [] => none
    | '\x7b' :: r => do
      let (name, rest) ← braced? f.verbose r
      return (← ofName? name, rest)
    | '\\' :: _ => none
    | c :: r => do return (← CharSet.named? [c], r)

def isMeta (c : Char) : Bool := "\\.+*?()|[]\x7b\x7d^$#&-~".toList.contains c

def isEscapable (c : Char) : Bool :=
  isMeta c || (c.toNat < 128 && !c.isAlphanum && c ≠ '<' && c ≠ '>')

/-- What a backslash and the following characters stand for. References to groups are not
supported. -/
def escape? (f : Flags) : List Char → Option (Atom × List Char)
  | [] => none
  | c :: r =>
    if isEscapable c then some (char c, r)
    else
      match c with
      | 'x' => byNumber? f 2 r
      | 'u' => byNumber? f 4 r
      | 'U' => byNumber? f 8 r
      | 'p' => property? f false r
      | 'P' => property? f true r
      | 'd' => withRest r (some (set (pick CharSet.digit CharSet.asciiDigit)))
      | 'D' => withRest r (negated? f true CharSet.digit)
      | 's' => withRest r (some (set (pick CharSet.space CharSet.asciiSpace)))
      | 'S' => withRest r (negated? f true CharSet.space)
      | 'w' => withRest r (some (set (pick CharSet.word CharSet.asciiWord)))
      | 'W' => withRest r (negated? f true CharSet.word)
      | 'a' => some (char '\x07', r)
      | 'f' => some (char '\x0c', r)
      | 't' => some (char '\t', r)
      | 'n' => some (char '\n', r)
      | 'r' => some (char '\r', r)
      | 'v' => some (char '\x0b', r)
      | 'A' => some (look atStart, r)
      | 'z' => some (look atEnd, r)
      | 'b' => boundary? f r
      | 'B' => some (insideOrOutsideWords f, r)
      | '<' => some (wordStart f, r)
      | '>' => some (wordEnd f, r)
      | _ => none
where
  withRest (rest : List Char) (a : Option Atom) : Option (Atom × List Char) :=
    a.map fun a => (a, rest)
  pick (s ascii : CharSet) : CharSet := if f.unicode then s else ascii

end Atom

end EntityAudit.Pattern
