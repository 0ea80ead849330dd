import Mathlib.Data.Nat.Log
import Mathlib.Tactic.Ring
import Mathlib.Tactic.NormNum

/-! Rounding to the numbers of a `double`, away from overflow and underflow: a natural number of
units, whatever power of two the unit is, is rounded to one with 53 significant bits. -/

set_option autoImplicit false

namespace Lib.Binary64

/-- The distance between the numbers around this one. -/
def ulp (n : Nat) : Nat := 2 ^ (n.log2 - 52)

/-- A quotient to nearest, and to the even one of two. -/
def divNearest (n d : Nat) : Nat :=
  if 2 * (n % d) < d ∨ (2 * (n % d) = d ∧ n / d % 2 = 0) then n / d else n / d + 1

def round (n : Nat) : Nat := divNearest n (ulp n) * ulp n

variable {n d k : Nat}

theorem ulp_pos (n : Nat) : 0 < ulp n := Nat.two_pow_pos _

theorem div_le_divNearest (n d : Nat) : n / d ≤ divNearest n d := by
  unfold divNearest
  split <;> omega

theorem divNearest_of_dvd (positive : 0 < d) (divides : d ∣ n) : divNearest n d = n / d := by
  have none : n % d = 0 := Nat.mod_eq_zero_of_dvd divides
  rw [divNearest, if_pos (.inl (by omega))]

/-- No multiple of the divisor is nearer. -/
theorem divNearest_near (positive : 0 < d) :
    2 * n ≤ 2 * (divNearest n d * d) + d ∧ 2 * (divNearest n d * d) ≤ 2 * n + d := by
  have whole := Nat.div_add_mod n d
  have below := Nat.mod_lt n positive
  rw [mul_comm] at whole
  unfold divNearest
  split
  · omega
  · rw [Nat.add_mul, Nat.one_mul]
    omega

theorem round_of_lt (small : n < 2 ^ 53) : round n = n := by
  have one : ulp n = 1 := by
    by_cases zero : n = 0
    · rw [zero]
      rfl
    · have bits : n.log2 < 53 := (Nat.log2_lt zero).mpr small
      rw [ulp, Nat.sub_eq_zero_of_le (by omega), Nat.pow_zero]
  rw [round, one, divNearest_of_dvd Nat.one_pos (Nat.one_dvd n), Nat.div_one, Nat.mul_one]

/-- The leading bits of a number that is not exact. -/
theorem two_pow_mul_ulp (large : 2 ^ 52 ≤ n) : 2 ^ 52 * ulp n = 2 ^ n.log2 := by
  have positive : n ≠ 0 := by
    rintro rfl
    norm_num at large
  have bits : 52 ≤ n.log2 := (Nat.le_log2 positive).mpr large
  rw [ulp, ← Nat.pow_add]
  congr 1
  omega

/-- The rounding error is half a unit in the 53rd bit. -/
theorem round_near (n : Nat) : 2 ^ 53 * n ≤ 2 ^ 53 * round n + n ∧
    2 ^ 53 * round n ≤ 2 ^ 53 * n + n := by
  by_cases small : n < 2 ^ 53
  · rw [round_of_lt small]
    omega
  · have large : 2 ^ 52 ≤ n := by omega
    have bits : 2 ^ n.log2 ≤ n := Nat.log2_self_le (by omega)
    rw [← two_pow_mul_ulp large] at bits
    have near := divNearest_near (n := n) (ulp_pos n)
    unfold round
    omega

/-- Rounding does not cross a power of two. -/
theorem two_pow_le_round (above : 2 ^ k ≤ n) : 2 ^ k ≤ round n := by
  by_cases small : n < 2 ^ 53
  · rwa [round_of_lt small]
  · have large : 2 ^ 52 ≤ n := by omega
    have positive : n ≠ 0 := by omega
    have bits : 2 ^ 52 * ulp n ≤ n := (two_pow_mul_ulp large).trans_le (Nat.log2_self_le positive)
    have quotient : 2 ^ 52 ≤ n / ulp n := (Nat.le_div_iff_mul_le (ulp_pos n)).mpr bits
    calc 2 ^ k ≤ 2 ^ n.log2 :=
          Nat.pow_le_pow_right Nat.two_pos ((Nat.le_log2 positive).mpr above)
      _ = 2 ^ 52 * ulp n := (two_pow_mul_ulp large).symm
      _ ≤ round n := Nat.mul_le_mul_right _ (quotient.trans (div_le_divNearest _ _))

end Lib.Binary64
