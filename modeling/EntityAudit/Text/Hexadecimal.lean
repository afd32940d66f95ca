namespace EntityAudit.Text

def hexDigit? (c : Char) : Option Nat :=
  if '0' ≤ c ∧ c ≤ '9' then some (c.toNat - 48)
  else if 'A' ≤ c ∧ c ≤ 'F' then some (c.toNat - 55)
  else if 'a' ≤ c ∧ c ≤ 'f' then some (c.toNat - 87)
  else none

def hex? : List Char → Option Nat
  | [] => none
  | cs => cs.foldlM (fun n c => (hexDigit? c).map (16 * n + ·)) 0

def hexText (n : Nat) : String := String.ofList (Nat.toDigits 16 n)

end EntityAudit.Text
