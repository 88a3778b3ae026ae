import EntitySearch.Json.Value
import EntitySearch.Number.Reading
/-!
# Numbers out of JSON values

A vacant value stands for zero; a truth value, a number or a text that spells a number is converted;
any other value cannot be. A double becomes a whole number by dropping its fraction.
-/

namespace EntitySearch.Json

open Number (ArithmeticError)

/-- Why a value is not converted into a number. -/
inductive ConversionError where
  /-- An array or an object is no number. -/
  | notConvertible
  /-- A text spells no number. -/
  | unreadable
  /-- The number does not fit. -/
  | arithmetic (cause : ArithmeticError)
  deriving Repr, DecidableEq

/-- Passes on an arithmetic result. -/
def liftArithmetic {β : Type} : Except ArithmeticError β → Except ConversionError β
  | .ok x => pure x
  | .error e => throw (.arithmetic e)

/-- The double that a value stands for. -/
def toFloat (value : Json) : Except ConversionError Float :=
  if value.isVacant then pure 0
  else
    match value with
    | .atom (.bool _) => pure 1
    | .atom (.int n) => liftArithmetic (Number.floatOfInt n)
    | .atom (.float x) => pure x
    | .atom (.text s) => match Number.readFloat? s with
      | some x => pure x
      | none => throw .unreadable
    | _ => throw .notConvertible

/-- The whole number that a value stands for. -/
def toInt (value : Json) : Except ConversionError Int :=
  if value.isVacant then pure 0
  else
    match value with
    | .atom (.bool _) => pure 1
    | .atom (.int n) => pure n
    | .atom (.float x) => liftArithmetic (Number.truncateFloat x)
    | .atom (.text s) => match Number.readInt? s with
      | some n => pure n
      | none => throw .unreadable
    | _ => throw .notConvertible

end EntitySearch.Json
