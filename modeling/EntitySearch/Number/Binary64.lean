import EntitySearch.Number.Rounding
/-!
# Doubles as exact values

A double is taken apart into its sign, a whole significand and a power of two (`Parts.ofFloat`), and
an exact quotient of whole numbers is rounded to the nearest double (`ofQuotient`). Division of
whole numbers, conversion of whole numbers, reading of decimals and rounding to decimal places are
all single roundings of an exact quotient.
-/

namespace EntitySearch.Number

/-- Why an arithmetic operation has no result. -/
inductive ArithmeticError where
  /-- Division by zero. -/
  | divisionByZero
  /-- The value is beyond the range of the numbers in use. -/
  | outOfRange
  /-- An undefined value was to become a whole number. -/
  | undefined
  deriving Repr, DecidableEq

/-- What a double stands for. -/
inductive Parts where
  | undefined
  | infinite (negative : Bool)
  /-- The value `±significand · 2 ^ exponent`. -/
  | finite (negative : Bool) (significand : Nat) (exponent : Int)
  deriving Repr, DecidableEq

/-- The exact meaning of a double. -/
def Parts.ofFloat (x : Float) : Parts :=
  let bits := x.toBits.toNat
  let negative := decide (bits / Nat.pow 2 63 = 1)
  let biased : Nat := bits / Nat.pow 2 52 % Nat.pow 2 11
  let fraction : Nat := bits % Nat.pow 2 52
  if biased = 2047 then if fraction = 0 then .infinite negative else .undefined
  else if biased = 0 then .finite negative fraction (-1074)
  else .finite negative (Nat.pow 2 52 + fraction) ((biased : Int) - 1075)

/-- Infinity, with a sign. -/
def infinity (negative : Bool) : Float :=
  Float.ofBits (if negative then 0xFFF0000000000000 else 0x7FF0000000000000)

/-- The undefined double. -/
def undefinedFloat : Float := Float.ofBits 0x7FF8000000000000

/-- The double `±significand · 2 ^ exponent`, for a significand of at most `2 ^ 53` that either
reaches `2 ^ 52` or stands at the least exponent; nothing if it is too large. -/
def assemble (negative : Bool) (significand : Nat) (exponent : Int) : Option Float :=
  let (m, e) :=
    if significand = Nat.pow 2 53 then (Nat.pow 2 52, exponent + 1) else (significand, exponent)
  let magnitude :=
    if m < Nat.pow 2 52 then m else (e + 1075).toNat * Nat.pow 2 52 + (m - Nat.pow 2 52)
  if 0x7FF0000000000000 ≤ magnitude then none
  else some (Float.ofBits (.ofNat (if negative then Nat.pow 2 63 + magnitude else magnitude)))

/-- `num / (den · 2 ^ exponent)` rounded to a whole number, for `0 < den`. -/
def scaledRound (num den : Nat) (exponent : Int) : Nat :=
  if 0 ≤ exponent then roundHalfEven num (den * Nat.pow 2 exponent.toNat)
  else roundHalfEven (num * Nat.pow 2 (-exponent).toNat) den

/-- The double nearest to `±num / den`, for `0 < den`; nothing if the quotient is too large. -/
def ofQuotient (negative : Bool) (num den : Nat) : Option Float :=
  if num = 0 then assemble negative 0 0
  else
    -- the quotient lies strictly between `2 ^ (scale - 1)` and `2 ^ (scale + 1)`
    let scale : Int := (Nat.log2 num : Int) - (Nat.log2 den : Int)
    let low := max (scale - 53) (-1074)
    let floorAtLow :=
      if 0 ≤ low then num / (den * Nat.pow 2 low.toNat) else num * Nat.pow 2 (-low).toNat / den
    let exponent := if Nat.pow 2 53 ≤ floorAtLow then low + 1 else low
    assemble negative (scaledRound num den exponent) exponent

/-- The double nearest to a whole number. -/
def floatOfInt (n : Int) : Except ArithmeticError Float :=
  match ofQuotient (n < 0) n.natAbs 1 with
  | some x => .ok x
  | none => .error .outOfRange

/-- The double nearest to a quotient of whole numbers. -/
def floatOfRatio (num den : Int) : Except ArithmeticError Float :=
  if den = 0 then .error .divisionByZero
  else
    match ofQuotient ((num < 0) != (den < 0) && num != 0) num.natAbs den.natAbs with
    | some x => .ok x
    | none => .error .outOfRange

/-- The double nearest to `±digits · 10 ^ exponent`, infinite when that is too large. -/
def ofDecimal (negative : Bool) (digits : Nat) (exponent : Int) : Float :=
  let size : Int := decimalLength digits + exponent
  if digits = 0 ∨ size < -330 then (assemble negative 0 0).getD 0
  else if 320 < size then infinity negative
  else
    let nearest :=
      if 0 ≤ exponent then ofQuotient negative (digits * Nat.pow 10 exponent.toNat) 1
      else ofQuotient negative digits (Nat.pow 10 (-exponent).toNat)
    nearest.getD (infinity negative)

/-- Numerator and denominator of the magnitude `significand · 2 ^ exponent`. -/
def magnitude (significand : Nat) (exponent : Int) : Nat × Nat :=
  if 0 ≤ exponent then (significand * Nat.pow 2 exponent.toNat, 1)
  else (significand, Nat.pow 2 (-exponent).toNat)

/-- A double rounded to a number of decimal places. The exact value is rounded, a tie going to the
even neighbour, and the result is the nearest double to that decimal. -/
def roundPlaces (places : Nat) (x : Float) : Float :=
  match Parts.ofFloat x with
  | .finite negative m e =>
    let (num, den) := magnitude m e
    (ofQuotient negative (roundHalfEven (num * Nat.pow 10 places) den) (Nat.pow 10 places)).getD x
  | _ => x

/-- The least whole number that is not below a double. -/
def ceilFloat (x : Float) : Except ArithmeticError Int :=
  match Parts.ofFloat x with
  | .undefined => .error .undefined
  | .infinite _ => .error .outOfRange
  | .finite negative m e =>
    let (num, den) := magnitude m e
    .ok (if negative then -((num / den : Nat) : Int) else ((num + den - 1) / den : Nat))

/-- A double without its fraction. -/
def truncateFloat (x : Float) : Except ArithmeticError Int :=
  match Parts.ofFloat x with
  | .undefined => .error .undefined
  | .infinite _ => .error .outOfRange
  | .finite negative m e =>
    let (num, den) := magnitude m e
    .ok (if negative then -((num / den : Nat) : Int) else (num / den : Nat))

/-- The natural logarithm of `n + 1`. A number beyond the range of doubles is first scaled by a
power of two, whose logarithm is added back. -/
def logSucc (n : Nat) : Float :=
  match ofQuotient false (n + 1) 1 with
  | some x => Float.log x
  | none =>
    let size := bitLength (n + 1)
    match ofQuotient false (n + 1) (Nat.pow 2 size) with
    | some x =>
      let (x, size) := if x == 1 then (0.5, size + 1) else (x, size)
      Float.log x + Float.log 2 * Float.ofNat size
    | none => infinity false

/-- Whether a double is neither infinite nor undefined. -/
def isFiniteFloat (x : Float) : Bool :=
  match Parts.ofFloat x with
  | .finite .. => true
  | _ => false

/-- How a whole number compares with a double, exactly; nothing for an undefined one. -/
def compareIntFloat (n : Int) (x : Float) : Option Ordering :=
  match Parts.ofFloat x with
  | .undefined => none
  | .infinite negative => some (if negative then .gt else .lt)
  | .finite negative m e =>
    let (num, den) := magnitude m e
    let signed : Int := if negative then -num else num
    some (compare (n * den) signed)

end EntitySearch.Number
