import EntitySearch.Number.Binary64
/-!
# Written doubles

Two written forms of a double: scientific notation with a fixed number of digits after the point
(`scientific`), and the shortest decimal that reads back as the same double (`shortest`), written
positionally where its exponent is small and in scientific notation elsewhere.
-/

namespace EntitySearch.Number

/-- The decimal digits of a number, filled up with zeros on the left to at least `width`. -/
def padded (width n : Nat) : String :=
  let digits := Nat.toDigits 10 n
  String.ofList (List.replicate (width - digits.length) '0' ++ digits)

/-- The least `k` with `num / den < 10 ^ (k + 1)`, for positive arguments, searched downwards from
an upper bound; `fuel` bounds the number of steps. -/
def decimalExponentFrom (num den : Nat) : Nat → Int → Int
  | 0, k => k
  | fuel + 1, k =>
    let below :=
      if 0 ≤ k then decide (num < den * Nat.pow 10 k.toNat)
      else decide (num * Nat.pow 10 (-k).toNat < den)
    if below then decimalExponentFrom num den fuel (k - 1) else k

/-- The exponent of the leading decimal digit of a positive quotient. -/
def decimalExponent (num den : Nat) : Int :=
  let guess : Int := (decimalLength num : Int) - (decimalLength den : Int)
  decimalExponentFrom num den 3 guess

/-- `num / den` in units of `10 ^ unit`, rounded down, with the remaining fraction. -/
def inUnits (num den : Nat) (unit : Int) : Nat × Nat :=
  if 0 ≤ unit then (num, den * Nat.pow 10 unit.toNat) else (num * Nat.pow 10 (-unit).toNat, den)

/-- Sign and size of an exponent of at least two digits. -/
def exponentText (k : Int) : String :=
  (if k < 0 then "e-" else "e+") ++ padded 2 k.natAbs

/-- Scientific notation with `places` digits after the point. -/
def scientific (places : Nat) (x : Float) : String :=
  match Parts.ofFloat x with
  | .undefined => "nan"
  | .infinite negative => if negative then "-inf" else "inf"
  | .finite negative m e =>
    let sign := if negative then "-" else ""
    if m = 0 then sign ++ "0." ++ padded places 0 ++ exponentText 0
    else
      let (num, den) := magnitude m e
      let k := decimalExponent num den
      let (n, d) := inUnits num den (k - places)
      let digits := roundHalfEven n d
      let (digits, k) :=
        if digits = Nat.pow 10 (places + 1) then (Nat.pow 10 places, k + 1) else (digits, k)
      sign ++ toString (digits / Nat.pow 10 places) ++ "."
        ++ padded places (digits % Nat.pow 10 places)
        ++ exponentText k

/-- The nearest decimal of `count` digits that reads back as the positive double `x`, whose exact
value is `num / den`, as digits and unit. -/
def readBack? (x : Float) (num den : Nat) (k : Int) (count : Nat) : Option (Nat × Int) :=
  let unit := k - (count - 1 : Nat)
  let (n, d) := inUnits num den unit
  let near := roundHalfEven n d
  let other := if near = n / d then near + 1 else n / d
  let ok := fun (digits : Nat) => digits != 0 && (ofDecimal false digits unit == x)
  if ok near then some (near, unit) else if ok other then some (other, unit) else none

/-- The digits and unit of the shortest decimal that reads back, tried with growing length. -/
def shortestFrom (x : Float) (num den : Nat) (k : Int) : Nat → Nat → Nat × Int
  | 0, count => let (n, d) := inUnits num den (k - count); (roundHalfEven n d, k - count)
  | fuel + 1, count =>
    match readBack? x num den k count with
    | some found => found
    | none => shortestFrom x num den k fuel (count + 1)

/-- Removes zeros from the end of a number, raising the unit. -/
def trimZeros : Nat → Nat → Int → Nat × Int
  | 0, digits, unit => (digits, unit)
  | fuel + 1, digits, unit =>
    if digits % 10 = 0 ∧ digits ≠ 0 then trimZeros fuel (digits / 10) (unit + 1) else (digits, unit)

/-- The shortest decimal that reads back. It is written positionally when its leading digit stands
for at least `10 ^ -4` and less than `10 ^ 16`, and always with a point or an exponent. -/
def shortest (x : Float) : String :=
  match Parts.ofFloat x with
  | .undefined => "nan"
  | .infinite negative => if negative then "-inf" else "inf"
  | .finite negative m e =>
    let sign := if negative then "-" else ""
    if m = 0 then sign ++ "0.0"
    else
      let (num, den) := magnitude m e
      let (found, unit) := shortestFrom x.abs num den (decimalExponent num den) 17 1
      let (digits, unit) := trimZeros 20 found unit
      let text := toString digits
      let lead : Int := unit + (text.length - 1 : Nat)
      if lead < -4 ∨ 16 ≤ lead then
        let rest := (text.drop 1).toString
        sign ++ (text.take 1).toString ++ (if rest.isEmpty then "" else "." ++ rest)
          ++ exponentText lead
      else if 0 ≤ unit then sign ++ toString (digits * Nat.pow 10 unit.toNat) ++ ".0"
      else
        let scale := Nat.pow 10 (-unit).toNat
        sign ++ toString (digits / scale) ++ "." ++ padded (-unit).toNat (digits % scale)

end EntitySearch.Number
