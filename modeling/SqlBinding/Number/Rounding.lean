import SqlBinding.Number.Power

/-!
# Rounding of quotients

Quotients of naturals rounded to the nearest natural, with a tie going to the even neighbour or
upwards, and the number of decimal digits of a natural.
-/

namespace SqlBinding

/-- `n / d` to the nearest natural; a tie goes to the even neighbour. -/
def divHalfEven (n d : Nat) : Nat :=
  let q := n / d
  let r := n % d
  if 2 * r < d then q
  else if d < 2 * r then q + 1
  else q + q % 2

def divHalfUp (n d : Nat) : Nat := (2 * n + d) / (2 * d)

def digitCount (n : Nat) : Nat := if n < 10 then 1 else digitCount (n / 10) + 1

theorem digitCount_pos (n : Nat) : 0 < digitCount n := by
  unfold digitCount
  split <;> omega

theorem lt_tenPow_digitCount (n : Nat) : n < tenPow (digitCount n) := by
  induction n using digitCount.induct with
  | case1 n h => rw [digitCount, if_pos h]; exact h
  | case2 n h ih => rw [digitCount, if_neg h, tenPow_succ]; omega

theorem divHalfEven_one (n : Nat) : divHalfEven n 1 = n := by
  simp [divHalfEven, Nat.mod_one]

theorem divHalfEven_mul_left (q d : Nat) (h : 0 < d) : divHalfEven (d * q) d = q := by
  simp [divHalfEven, Nat.mul_div_cancel_left q h, h]

end SqlBinding
