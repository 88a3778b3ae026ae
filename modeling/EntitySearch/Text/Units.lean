import EntitySearch.Text.Basic
/-!
# UTF-16 units

A code point of the first plane is one unit, its own number; any other one is a pair of surrogates.
Reading a sequence of units joins every high surrogate with a low one behind it, and a surrogate
that is not joined stands for itself.
-/

namespace EntitySearch.Text

/-- Whether a unit is the first half of a pair. -/
def isHighUnit (n : Nat) : Bool := 0xD800 ≤ n && n < 0xDC00

/-- Whether a unit is the second half of a pair. -/
def isLowUnit (n : Nat) : Bool := 0xDC00 ≤ n && n < 0xE000

/-- The number of the code point that two halves of a pair spell. -/
def joinPair (high low : Nat) : Nat := 0x10000 + (high - 0xD800) * 0x400 + (low - 0xDC00)

/-- The units of the code point with a number. -/
def unitsOf (n : Nat) : List Nat :=
  if n < 0x10000 then [n]
  else [0xD800 + (n - 0x10000) / 0x400, 0xDC00 + (n - 0x10000) % 0x400]

/-- The text of units. -/
def ofUnits : List Nat → Text
  | [] => []
  | [n] => [.ofCode n]
  | m :: n :: rest =>
    if isHighUnit m && isLowUnit n then .ofCode (joinPair m n) :: ofUnits rest
    else .ofCode m :: ofUnits (n :: rest)

/-- The number that two halves spell, by their distances from the first high and low one. -/
theorem joinPair_add (a b : Nat) :
    joinPair (0xD800 + a) (0xDC00 + b) = 0x10000 + a * 0x400 + b := by
  unfold joinPair
  omega

/-- The two units of a code point beyond the first plane spell it again. -/
theorem joinPair_unitsOf {n : Nat} (h : 0x10000 ≤ n) (bound : n < 0x110000) :
    ∃ m l, unitsOf n = [m, l] ∧ isHighUnit m = true ∧ isLowUnit l = true ∧ joinPair m l = n := by
  refine ⟨0xD800 + (n - 0x10000) / 0x400, 0xDC00 + (n - 0x10000) % 0x400, ?_, ?_, ?_, ?_⟩
  · exact if_neg (Nat.not_lt.mpr h)
  · simp only [isHighUnit, Bool.and_eq_true, decide_eq_true_eq]; omega
  · simp only [isLowUnit, Bool.and_eq_true, decide_eq_true_eq]; omega
  · rw [joinPair_add]
    omega

end EntitySearch.Text
