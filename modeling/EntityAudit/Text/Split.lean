/-!
Cutting a text at separators. Texts are cut as lists of characters.
Putting a separator back between the parts gives the text again (`splitOnce?_eq_some`).
-/

namespace EntityAudit.Text

def splitOnce? (sep : Char) : List Char → Option (List Char × List Char)
  | [] => none
  | c :: r =>
    if c = sep then some ([], r)
    else (splitOnce? sep r).map fun (a, b) => (c :: a, b)

def splitLast? (sep : Char) (cs : List Char) : Option (List Char × List Char) :=
  (splitOnce? sep cs.reverse).map fun (a, b) => (b.reverse, a.reverse)

def splitAll (sep : Char) : List Char → List (List Char)
  | [] => [[]]
  | c :: r =>
    if c = sep then [] :: splitAll sep r
    else match splitAll sep r with
      | [] => [[c]]
      | part :: parts => (c :: part) :: parts

def dropLeading? : List Char → List Char → Option (List Char)
  | [], cs => some cs
  | _ :: _, [] => none
  | a :: as, c :: cs => if a = c then dropLeading? as cs else none

theorem splitOnce?_eq_some {sep : Char} {cs a b : List Char} (h : splitOnce? sep cs = some (a, b)) :
    cs = a ++ sep :: b := by
  induction cs generalizing a with
  | nil => simp [splitOnce?] at h
  | cons c r ih =>
    unfold splitOnce? at h
    split at h
    · rename_i hc
      obtain ⟨rfl, rfl⟩ := by simpa using h
      simp [hc]
    · obtain ⟨⟨x, y⟩, hxy, hx⟩ := Option.map_eq_some_iff.1 h
      obtain ⟨rfl, rfl⟩ := by simpa using hx
      simp [ih hxy]

end EntityAudit.Text
