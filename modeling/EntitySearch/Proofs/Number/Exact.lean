import EntitySearch.Number.Scalar
import Mathlib
/-!
# Exact scores

The rational numbers are scores in which nothing is rounded. They give the definitions of ranking
the meaning that doubles come near to.
-/

namespace EntitySearch

open Number (ArithmeticError)

/-- A rational number rounded to nine decimal places, a tie going to the even neighbour. -/
def Number.roundNano (q : ℚ) : ℚ :=
  let nearest : ℚ := Number.roundHalfEven (q.num.natAbs * 10 ^ 9) q.den / 10 ^ 9
  if q < 0 then -nearest else nearest

instance : Scalar ℚ where
  half q := q / 2
  decimal n k := n / 10 ^ k
  ofInt n := .ok n
  ratio a b := if b = 0 then .error .divisionByZero else .ok (a / b)
  divInt q n := if n = 0 then .error .divisionByZero else .ok (q / n)
  less a b := decide (a < b)
  same a b := decide (a = b)
  ceilNano q := .ok ⌈Number.roundNano q⌉

/-- A number with nine decimal places is not rounded. -/
theorem Number.roundNano_eq {q : ℚ} (hq : 0 ≤ q) {n : ℕ} (h : q * 10 ^ 9 = n) :
    Number.roundNano q = q := by
  have hden : (q.den : ℚ) ≠ 0 := by exact_mod_cast q.den_ne_zero
  have hnum : (q.num.natAbs : ℚ) = q * q.den := by
    have habs : |q.num| = q.num := abs_of_nonneg (Rat.num_nonneg.mpr hq)
    rw [Nat.cast_natAbs, habs, Rat.mul_den_eq_num]
  -- nothing is left over
  have hexact : q.num.natAbs * 10 ^ 9 = q.den * n := by
    have hcast : ((q.num.natAbs * 10 ^ 9 : ℕ) : ℚ) = (q.den * n : ℕ) := by
      push_cast
      rw [hnum, ← h]
      ring
    exact_mod_cast hcast
  unfold Number.roundNano
  simp only [hexact, Number.roundHalfEven_mul n q.den q.den_pos, if_neg (not_lt.mpr hq), ← h]
  ring

end EntitySearch
