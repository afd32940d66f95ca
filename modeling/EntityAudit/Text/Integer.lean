namespace EntityAudit.Text

def digit? (c : Char) : Option Nat :=
  if '0' ≤ c ∧ c ≤ '9' then some (c.toNat - '0'.toNat) else none

def isDigit (c : Char) : Bool := (digit? c).isSome

def appendDigits? (n : Nat) : List Char → Option Nat
  | [] => some n
  | c :: r => (digit? c).bind fun d => appendDigits? (10 * n + d) r

def digits? : List Char → Option Nat
  | [] => none
  | cs => appendDigits? 0 cs

def natural? (limit : Nat) : List Char → Option Nat
  | '+' :: cs => (digits? cs).filter (· < limit)
  | cs => (digits? cs).filter (· < limit)

def integer? (low high : Int) : List Char → Option Int
  | '-' :: cs => ((digits? cs).map fun n => -(n : Int)).filter fun i => low ≤ i ∧ i < high
  | '+' :: cs => ((digits? cs).map fun n => (n : Int)).filter fun i => low ≤ i ∧ i < high
  | cs => ((digits? cs).map fun n => (n : Int)).filter fun i => low ≤ i ∧ i < high

def zeroPadded (width n : Nat) : String :=
  let s := toString n
  String.ofList (List.replicate (width - s.length) '0') ++ s

def signedPadded (width : Nat) (i : Int) : String :=
  (if i < 0 then "-" else "+") ++ zeroPadded (width - 1) i.natAbs

theorem integer?_ge {low high i : Int} {cs : List Char} (h : integer? low high cs = some i) :
    low ≤ i ∧ i < high := by
  unfold integer? at h
  split at h <;> simpa using (Option.filter_eq_some_iff.1 h).2

end EntityAudit.Text
