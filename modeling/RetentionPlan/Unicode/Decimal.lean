import RetentionPlan.Unicode.Table

/-!
# Decimal digits

Every script's decimal digits stand in ten consecutive code points from its zero upwards.
-/
namespace RetentionPlan.Unicode

def decimalZeros : Array Nat :=
  numbers
    "30 660 6f0 7c0 966 9e6 a66 ae6 b66 be6 c66 ce6 d66 de6 e50 ed0 f20 1040 1090 17e0 1810 1946
  19d0 1a80 1a90 1b50 1bb0 1c40 1c50 a620 a8d0 a900 a9d0 a9f0 aa50 abf0 ff10 104a0 10d30 11066
  110f0 11136 111d0 112f0 11450 114d0 11650 116c0 11730 118e0 11950 11c50 11d50 11da0 16a60
  16ac0 16b50 1d7ce 1d7d8 1d7e2 1d7ec 1d7f6 1e140 1e2f0 1e950 1fbf0"

def digitValue? (c : Char) : Option Nat :=
  let n := c.toNat
  if '0' ≤ c ∧ c ≤ '9' then some (n - 0x30)
  else if n < 0x80 then none
  else (decimalZeros.find? fun base => base ≤ n && n < base + 10).map (n - ·)

end RetentionPlan.Unicode
