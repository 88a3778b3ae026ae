import EntitySearch.Number.Binary64
import EntitySearch.Text.Blank
import EntitySearch.Text.Digit
/-!
# Reading numbers from text

Whole and real numbers in free text: blanks around the number are ignored, digits of every script
count, and single underscores may stand between digits. A whole number may have at most 4300
digits.
-/

namespace EntitySearch.Number

open Text (digitValue? isBlank ofDigits)

/-- The most digits that a whole number may be written with, leading zeros included. -/
def maxDigits : Nat := 4300

/-- The blanks that may surround a number: all but the information separators. -/
def isNumberBlank (c : CodePoint) : Bool := isBlank c && !(0x1C ≤ c.code && c.code ≤ 0x1F)

/-- The text without the blanks around a number. -/
def stripNumber (text : Text) : Text :=
  ((text.dropWhile isNumberBlank).reverse.dropWhile isNumberBlank).reverse

/-- The sign of a number and what follows it. -/
def splitSign : Text → Bool × Text
  | .char '-' :: rest => (true, rest)
  | .char '+' :: rest => (false, rest)
  | text => (false, text)

/-- The values of digits between which single underscores may stand. -/
def digitsAfter : Text → Option (List Nat)
  | [] => some []
  | .char '_' :: c :: rest => do
    let d ← digitValue? c
    let ds ← digitsAfter rest
    pure (d :: ds)
  | c :: rest => do
    let d ← digitValue? c
    let ds ← digitsAfter rest
    pure (d :: ds)

/-- The values of a group of digits, which begins with a digit. -/
def digitGroup : Text → Option (List Nat)
  | [] => none
  | c :: rest => do
    let d ← digitValue? c
    let ds ← digitsAfter rest
    pure (d :: ds)

/-- A group of digits that may be missing. -/
def digitGroupOrNone (text : Text) : Option (List Nat) :=
  if text.isEmpty then some [] else digitGroup text

/-- The whole number that a text spells. -/
def readInt? (text : Text) : Option Int := do
  let (negative, rest) := splitSign (stripNumber text)
  let digits ← digitGroup rest
  if maxDigits < digits.length then none
  else pure (if negative then -(ofDigits digits : Int) else ofDigits digits)

/-- The real number that a text spells: a decimal with an optional exponent, infinity, or the
undefined value. -/
def readFloat? (text : Text) : Option Float := do
  let (negative, rest) := splitSign (stripNumber text)
  let word := rest.lowerAscii
  if word = "nan" then some undefinedFloat
  else if word = "inf" ∨ word = "infinity" then some (infinity negative)
  else
    let (mantissa, exponent) := Text.cutAt (fun c : CodePoint => c == 'e' || c == 'E') rest
    let (whole, fraction) := Text.cutAt (fun c : CodePoint => c == '.') mantissa
    let wholeDigits ← digitGroupOrNone whole
    let fractionDigits ← digitGroupOrNone (fraction.getD [])
    if wholeDigits.isEmpty && fractionDigits.isEmpty then none
    else
      let scale ← match exponent with
        | none => some 0
        | some part => do
          let (below, digits) := splitSign part
          let n ← digitGroup digits
          pure (if below then -(ofDigits n : Int) else ofDigits n)
      pure (ofDecimal negative (ofDigits (wholeDigits ++ fractionDigits))
        (scale - fractionDigits.length))

end EntitySearch.Number
