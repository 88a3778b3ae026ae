import EntitySearch.Number.Binary64
/-!
# The numbers of relevance

Scores, weights and shares are computed in any type with the operations of `Scalar`; the engagement
boost needs a logarithm as well (`LogScalar`). Doubles are the type that programs run with. An
exact type, in which nothing is rounded, gives the same definitions their ideal meaning.
-/

namespace EntitySearch

open Number (ArithmeticError)

/-- A type of scores, with the operations on scores and whole numbers that ranking uses. -/
class Scalar (α : Type) extends Add α, Mul α where
  /-- Half of a score. -/
  half : α → α
  /-- `decimal n k` is the value of the decimal `n / 10 ^ k`. -/
  decimal : Nat → Nat → α
  /-- A whole number as a score. -/
  ofInt : Int → Except ArithmeticError α
  /-- The quotient of two whole numbers. -/
  ratio : Int → Int → Except ArithmeticError α
  /-- A score divided by a whole number. -/
  divInt : α → Int → Except ArithmeticError α
  /-- Whether the first score is smaller. -/
  less : α → α → Bool
  /-- Whether two scores compare as equal. -/
  same : α → α → Bool
  /-- The least whole number that is not below the score rounded to nine decimal places. -/
  ceilNano : α → Except ArithmeticError Int

/-- Scores with a logarithm. -/
class LogScalar (α : Type) extends Scalar α where
  /-- The natural logarithm of `n + 1`. -/
  logSucc : Nat → α

namespace Scalar

variable {α : Type} [Scalar α]

/-- A natural number as a score. -/
def ofNat (n : Nat) : α := decimal n 0

/-- Whether a score is zero or less. -/
def isAtMostZero (x : α) : Bool := less x (decimal 0 0) || same x (decimal 0 0)

/-- Whether a score and a time come before another score and time: the scores decide, and the
times where the scores are equal. -/
def pairLess (a b : α × Int) : Bool :=
  if same a.1 b.1 then decide (a.2 < b.2) else less a.1 b.1

/-- Whether a score can be compared at all: the undefined one does not even equal itself. -/
def isOrderly (x : α) : Bool := same x x

/-- Whether a score with a time can be compared. -/
def isPairOrderly (x : α × Int) : Bool := isOrderly x.1

end Scalar

instance : LogScalar Float where
  half x := x / 2
  decimal n k := Number.ofDecimal false n (-k)
  ofInt := Number.floatOfInt
  ratio := Number.floatOfRatio
  divInt x n := do
    let d ← Number.floatOfInt n
    if n = 0 then throw .divisionByZero else pure (x / d)
  less x y := decide (x < y)
  same x y := x == y
  ceilNano x := Number.ceilFloat (Number.roundPlaces 9 x)
  logSucc := Number.logSucc

end EntitySearch
