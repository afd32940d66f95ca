/-!
Regular expressions and whether one of them matches somewhere in a text. `Regex.reach` takes the
set of positions where a match may start to the set of positions where it may end, so the work
does not depend on the number of ways in which a text can be matched.
-/

namespace EntityAudit

structure Spot where
  before : Option Char
  after : Option Char

inductive Regex where
  | empty
  | set (p : Char → Bool)
  | look (l : Spot → Bool)
  | seq (a b : Regex)
  | alt (a b : Regex)
  | times (r : Regex) (least : Nat) (most : Option Nat)

namespace Regex

def spots (before : Option Char) : List Char → List Spot
  | [] => [⟨before, none⟩]
  | c :: cs => ⟨before, some c⟩ :: spots (some c) cs

abbrev Positions := List Bool

def advance (p : Char → Bool) (spots : List Spot) (s : Positions) : Positions :=
  false :: (List.zipWith (fun spot b => b && spot.after.any p) spots s).dropLast

def union (s t : Positions) : Positions := List.zipWith (· || ·) s t

def iterate (step : Positions → Positions) : Nat → Positions → Positions
  | 0, s => s
  | n + 1, s =>
    let t := step s
    if t = s then s else iterate step n t

def reach (spots : List Spot) : Regex → Positions → Positions
  | empty, s => s
  | set p, s => advance p spots s
  | look l, s => List.zipWith (fun spot b => b && l spot) spots s
  | seq a b, s => reach spots b (reach spots a s)
  | alt a b, s => union (reach spots a s) (reach spots b s)
  | times r least most, s =>
    let more := match most with
      | some n => n - least
      | none => spots.length
    iterate (fun t => union t (reach spots r t)) more (iterate (reach spots r) least s)

def isMatch (r : Regex) (text : String) : Bool :=
  let spots := spots none text.toList
  (reach spots r (spots.map fun _ => true)).any id

end Regex

end EntityAudit
