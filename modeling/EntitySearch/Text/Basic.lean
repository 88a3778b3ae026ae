/-!
# Texts

A text is a sequence of code points. A code point is a character or a surrogate, which is half of a
pair that spells a character in UTF-16; a surrogate that stands alone is no character, yet texts
from outside may hold one. A text is well formed if all its code points are characters. Texts are
ordered by the numbers of their code points. A code point is known by its number (`ofCode_code`).
-/

namespace EntitySearch

/-- A code point. -/
inductive CodePoint where
  /-- A character. -/
  | char (c : Char)
  /-- A surrogate, by its distance from the first one. -/
  | surrogate (offset : Fin 0x800)
  deriving Repr, DecidableEq, Inhabited

namespace CodePoint

instance : Coe Char CodePoint := ⟨char⟩

/-- The number of a code point. -/
def code : CodePoint → Nat
  | char c => c.toNat
  | surrogate offset => 0xD800 + offset

/-- The code point of a number. -/
def ofCode (n : Nat) : CodePoint :=
  if h : 0xD800 ≤ n ∧ n < 0xE000 then surrogate ⟨n - 0xD800, by omega⟩ else char (Char.ofNat n)

/-- The character that a code point is, if it is one. -/
def char? : CodePoint → Option Char
  | char c => some c
  | surrogate _ => none

/-- Whether a code point is a character with a property. -/
def is (p : Char → Bool) : CodePoint → Bool
  | char c => p c
  | surrogate _ => false

/-- A code point is found again by its number. -/
theorem ofCode_code (c : CodePoint) : ofCode c.code = c := by
  cases c with
  | char c =>
    have valid := c.valid
    unfold UInt32.isValidChar Nat.isValidChar at valid
    have outside : ¬ (0xD800 ≤ c.toNat ∧ c.toNat < 0xE000) := by
      unfold Char.toNat
      omega
    simp [ofCode, code, outside]
  | surrogate offset =>
    have h := offset.isLt
    have inside : 0xD800 ≤ 0xD800 + offset.val ∧ 0xD800 + offset.val < 0xE000 := by omega
    simp [ofCode, code, inside]

end CodePoint

/-- A sequence of code points. -/
abbrev Text : Type := List CodePoint

namespace Text

/-- The text of characters. -/
def ofChars (chars : List Char) : Text := chars.map CodePoint.char

/-- The text of a string. -/
@[coe] def ofString (s : String) : Text := ofChars s.toList

instance : Coe String Text := ⟨ofString⟩

/-- The characters of a text, if it is well formed. -/
def chars? (text : Text) : Option (List Char) := text.mapM CodePoint.char?

/-- Whether all code points of a text are characters. -/
def isWellFormed (text : Text) : Bool := text.all fun c => c.char?.isSome

/-- A text with the capital letters of ASCII in lower case. -/
def lowerAscii (text : Text) : Text :=
  text.map fun
    | .char c => c.toLower
    | c => c

/-- Texts joined into one, with a text between every two of them. -/
def join (between : Text) (texts : List Text) : Text := between.intercalate texts

/-- The items of a list before the first one with a property, and the items behind that one if there
is one. -/
def cutAt {β : Type} (p : β → Bool) (items : List β) : List β × Option (List β) :=
  match items.dropWhile (fun c => !p c) with
  | [] => (items, none)
  | _ :: rest => (items.takeWhile (fun c => !p c), some rest)

/-- The text before the last code point of a kind, and the text after it. -/
def cutAtLast (mark : CodePoint) (text : Text) : Option (Text × Text) :=
  let after := (text.reverse.takeWhile (· != mark)).reverse
  if after.length < text.length then some (text.take (text.length - after.length - 1), after)
  else none

/-- The parts of a list between items with a property. -/
def splitWhere {β : Type} (p : β → Bool) : List β → List (List β)
  | [] => [[]]
  | c :: rest =>
    if p c then [] :: splitWhere p rest
    else
      match splitWhere p rest with
      | [] => [[c]]
      | part :: parts => (c :: part) :: parts

/-- Whether a text comes before another in the order of code points. -/
def before (s t : Text) : Bool :=
  decide (List.map CodePoint.code s < List.map CodePoint.code t)

/-- The characters of a text of characters are found again. -/
theorem chars?_ofChars (chars : List Char) : chars? (ofChars chars) = some chars := by
  induction chars with
  | nil => rfl
  | cons c rest ih =>
    simp only [chars?, ofChars] at ih
    simp [chars?, ofChars, CodePoint.char?, ih]

theorem ofString_append (s t : String) : ofString (s ++ t) = ofString s ++ ofString t := by
  simp [ofString, ofChars]

end Text

end EntitySearch
