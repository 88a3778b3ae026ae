import EntitySearch.Number.Scalar
import Mathlib
/-!
# Real scores

The real numbers are scores with a logarithm in which nothing is rounded. They give the boost by
interaction counters the meaning that doubles come near to.
-/

namespace EntitySearch

open Number (ArithmeticError)

/-- A real number rounded to nine decimal places, a tie going to the even neighbour. -/
noncomputable def Number.roundNanoReal (x : ℝ) : ℝ :=
  let scaled := x * 10 ^ 9
  (if Int.fract scaled = 1 / 2 then 2 * round (scaled / 2) else round scaled : ℤ) / 10 ^ 9

noncomputable instance : LogScalar ℝ where
  half x := x / 2
  decimal n k := n / 10 ^ k
  ofInt n := .ok n
  ratio a b := if b = 0 then .error .divisionByZero else .ok (a / b)
  divInt x n := if n = 0 then .error .divisionByZero else .ok (x / n)
  less x y := decide (x < y)
  same x y := decide (x = y)
  ceilNano x := .ok ⌈Number.roundNanoReal x⌉
  logSucc n := Real.log (n + 1)

namespace Scalar

theorem ofNat_real (n : ℕ) : (ofNat n : ℝ) = n := by
  show (n / 10 ^ 0 : ℝ) = n
  norm_num

/-- Real scores can all be compared. -/
theorem isOrderly_real (x : ℝ) : isOrderly x = true := decide_eq_true rfl

end Scalar

end EntitySearch
