import EntitySearch.Json.Convert
/-!
# Validating values

Values that come from outside are converted into the type that is expected where they allow it: a
text may spell a number or a truth value, a double without a fraction is a whole number, a truth
value is one or zero. What cannot be converted is reported by a fault and the place where it was
found.
-/

namespace EntitySearch

/-- What is wrong with a value. -/
inductive Fault where
  | missing
  | notText
  /-- A text that is not well formed stands where another value is read from a text. -/
  | notUnicode
  | notWhole
  | unreadableWhole
  | wholeTooLong
  | fraction
  | notFinite
  | notReal
  | unreadableReal
  | notTruth
  | unreadableTruth
  | belowBound
  | notAboveBound
  | notObject
  | notJson
  deriving Repr, DecidableEq

/-- The name under which a fault is reported. -/
def Fault.name : Fault → String
  | missing => "missing"
  | notText => "string_type"
  | notUnicode => "string_unicode"
  | notWhole => "int_type"
  | unreadableWhole => "int_parsing"
  | wholeTooLong => "int_parsing_size"
  | fraction => "int_from_float"
  | notFinite => "finite_number"
  | notReal => "float_type"
  | unreadableReal => "float_parsing"
  | notTruth => "bool_type"
  | unreadableTruth => "bool_parsing"
  | belowBound => "greater_than_equal"
  | notAboveBound => "greater_than"
  | notObject => "model_attributes_type"
  | notJson => "json_invalid"

/-- A fault and the place where it was found. -/
structure FaultAt where
  place : List Text
  fault : Fault
  deriving Repr, DecidableEq

namespace Validate

/-- A text. -/
def text : Json → Except Fault Text
  | .atom (.text s) => pure s
  | _ => throw .notText

/-- A number's text without underscores, which must stand one by one inside it. -/
def dropUnderscores (s : Text) : Option Text :=
  if s.head? = some (.char '_') ∨ s.getLast? = some (.char '_')
      ∨ (s.zip s.tail).contains ('_', '_') then none
  else some (s.filter fun c : CodePoint => c != '_')

/-- A number's text without a fraction of zeros, of which there is at least one. -/
def dropZeroFraction (s : Text) : Text :=
  match Text.cutAt (fun c : CodePoint => c == '.') s with
  | (whole, some rest) => if !rest.isEmpty && rest.all (· == .char '0') then whole else s
  | _ => s

/-- A number's text without a plus sign in front. -/
def dropPlus : Text → Option Text
  | .char '+' :: .char '-' :: _ => none
  | .char '+' :: rest => some rest
  | s => some s

/-- Whether a number's text may begin with a code point when the zeros in front are gone. -/
def beginsNumber (c : CodePoint) : Bool := c.is fun c => c.isDigit || c == '-'

/-- A number's text without the zeros in front of its first other digit or of a minus sign.
Underscores may stand among the zeros. -/
def dropZeros (s : Text) : Option Text :=
  match s with
  | .char '0' :: _ =>
    let later := s.dropWhile fun c : CodePoint => c == '0' || c == '_'
    let last := ((s.take (s.length - later.length)).getLast?).toList
    match later with
    | [] => some last
    | .char '.' :: _ => some (last ++ later)
    | c :: _ => if beginsNumber c then some later else none
  | c :: _ => if beginsNumber c then some s else none
  | [] => none

/-- What is left of a number's text when the plus sign, the zeros in front, a fraction of zeros and
the underscores are taken away. A minus sign in front stays. -/
def bare? (s : Text) : Option Text := do
  let (sign, size) ← match ← dropPlus s with
    | .char '-' :: rest => some (Text.ofString "-", rest)
    | rest => some ([], rest)
  let kept := dropZeroFraction (← dropZeros size)
  pure (sign ++ (dropUnderscores kept).getD kept)

/-- A minus sign at the front of a number's text, and what follows it. -/
def cutMinus : Text → Bool × Text
  | .char '-' :: rest => (true, rest)
  | s => (false, s)

/-- The ASCII digits at the front of a text. -/
def frontDigits (s : Text) : List Nat := (s.takeWhile (·.is Char.isDigit)).map fun c => c.code - 48

/-- The whole number that a text spells by digits without zeros in front, of which there may be
`Number.maxDigits`, and perhaps a minus sign. -/
def plainWhole? (s : Text) : Option Int :=
  let (negative, size) := cutMinus s
  let digits := frontDigits size
  if digits.isEmpty || digits.length != size.length || Number.maxDigits < digits.length
      || (digits.head? == some 0 && digits.length != 1) then none
  else
    let n : Int := Text.ofDigits digits
    some (if negative then -n else n)

/-- Whether a text begins with too many digits for a whole number. -/
def isTooLong (s : Text) : Bool :=
  let digits := frontDigits (cutMinus s).2
  digits.head? != some 0 && Number.maxDigits < digits.length

/-- The whole number that a text spells in ASCII digits, either plainly or with blanks around it, a
sign, underscores inside it, zeros in front and a fraction of zeros. -/
def wholeOfText (s : Text) : Except Fault Int :=
  if isTooLong s then throw .wholeTooLong
  else
    match (plainWhole? s).or ((bare? (Number.stripNumber s)).bind plainWhole?) with
    | some n => pure n
    | none => throw .unreadableWhole

/-- Reads a value from a text, which must be well formed. -/
def ofWellFormed {β : Type} (read : Text → Except Fault β) (s : Text) : Except Fault β :=
  if s.isWellFormed then read s else throw .notUnicode

/-- Whether a whole number fits into a machine word. -/
def fitsWord (n : Int) : Bool := -Nat.pow 2 63 ≤ n && n < Nat.pow 2 63

/-- A whole number. A double beyond machine words is not taken for one. -/
def whole : Json → Except Fault Int
  | .atom (.bool b) => pure (if b then 1 else 0)
  | .atom (.int n) => pure n
  | .atom (.float x) =>
    match Number.truncateFloat x with
    | .error _ => throw .notFinite
    | .ok n =>
      if Number.compareIntFloat n x != some .eq then throw .fraction
      else if -Nat.pow 2 63 < n && fitsWord n then pure n
      else throw .wholeTooLong
  | .atom (.text s) => ofWellFormed wholeOfText s
  | _ => throw .notWhole

/-- The real number that an ASCII text spells without blanks and underscores. -/
def plainReal? (s : Text) : Option Float :=
  if s.all (fun c : CodePoint => 0x20 < c.code && c.code < 0x7F && c != '_') then
    Number.readFloat? s
  else none

/-- The real number that a text spells: either blanks surround it or underscores stand inside it,
not both. -/
def realOfText (s : Text) : Except Fault Float :=
  match (plainReal? (Number.stripNumber s)).or ((dropUnderscores s).bind plainReal?) with
  | some x => pure x
  | none => throw .unreadableReal

/-- A real number. -/
def real : Json → Except Fault Float
  | .atom (.bool b) => pure (if b then 1 else 0)
  | .atom (.int n) => match Number.floatOfInt n with
    | .ok x => pure x
    | .error _ => throw .notReal
  | .atom (.float x) => pure x
  | .atom (.text s) => ofWellFormed realOfText s
  | _ => throw .notReal

/-- The texts that stand for a truth value, in lower case. -/
def truthTexts : List (Text × Bool) :=
  [("0", false), ("off", false), ("f", false), ("false", false), ("n", false), ("no", false),
    ("1", true), ("on", true), ("t", true), ("true", true), ("y", true), ("yes", true)]

/-- The truth value of a whole number; one beyond machine words is not even read. -/
def truthOfWhole (n : Int) : Except Fault Bool :=
  if n = 0 then pure false
  else if n = 1 then pure true
  else throw (if fitsWord n then .unreadableTruth else .notTruth)

/-- The truth value that a text stands for in any case. -/
def truthOfText (s : Text) : Except Fault Bool :=
  match truthTexts.lookup s.lowerAscii with
  | some b => pure b
  | none => throw .unreadableTruth

/-- A truth value. -/
def truth : Json → Except Fault Bool
  | .atom (.bool b) => pure b
  | .atom (.int n) => truthOfWhole n
  | .atom (.float x) =>
    match Number.truncateFloat x with
    | .ok n => if Number.compareIntFloat n x == some .eq then truthOfWhole n else throw .notTruth
    | .error _ => throw .notTruth
  | .atom (.text s) => ofWellFormed truthOfText s
  | _ => throw .notTruth

/-- A whole number that is not below a bound. -/
def atLeast (bound n : Int) : Except Fault Int := if bound ≤ n then pure n else throw .belowBound

/-- A whole number above a bound. -/
def above (bound n : Int) : Except Fault Int := if bound < n then pure n else throw .notAboveBound

/-- A value that may be null. -/
def orNull {β : Type} (convert : Json → Except Fault β) : Json → Except Fault (Option β)
  | .atom .null => pure none
  | v => do pure (some (← convert v))

end Validate

end EntitySearch
