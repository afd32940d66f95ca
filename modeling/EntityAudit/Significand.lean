namespace EntityAudit.Significand

/-- The nearest number with at most `bits` significant binary digits; a tie goes to the one whose
last digit is even. -/
def roundNat (bits n : Nat) : Nat :=
  let unit := Nat.pow 2 (n.log2 + 1 - bits)
  let q := n / unit
  let r := n % unit
  if unit < 2 * r ∨ (unit = 2 * r ∧ q % 2 = 1) then (q + 1) * unit else q * unit

def round (bits : Nat) : Int → Int
  | .ofNat n => roundNat bits n
  | .negSucc n => -(roundNat bits (n + 1) : Int)

theorem roundNat_of_log2_lt {bits n : Nat} (h : n.log2 < bits) : roundNat bits n = n := by
  have hunit : n.log2 + 1 - bits = 0 := by omega
  simp [roundNat, hunit, Nat.mod_one]

end EntityAudit.Significand
