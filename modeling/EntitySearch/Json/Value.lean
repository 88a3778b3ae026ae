import EntitySearch.Ledger
import EntitySearch.Number.Notation
import EntitySearch.Text.Printable
/-!
# JSON values

A JSON value is an atom, an array or an object. Whole numbers and doubles are told apart, and an
object keeps the order of its keys. Atoms are compared by value: a whole number equals the double
and the truth value of the same size.
-/

namespace EntitySearch

/-- A JSON value without parts. -/
inductive Atom where
  | null
  | bool (b : Bool)
  | int (n : Int)
  | float (x : Float)
  | text (s : Text)
  deriving Repr, BEq, DecidableEq, Inhabited

/-- A JSON value. -/
inductive Json where
  | atom (a : Atom)
  | arr (items : List Json)
  | obj (members : List (Text × Json))
  deriving Repr, BEq, Inhabited

namespace Atom

/-- The number that an atom stands for, if it is a whole one; truth values count as 1 and 0. -/
def whole? : Atom → Option Int
  | .bool b => some (if b then 1 else 0)
  | .int n => some n
  | _ => none

/-- How two numbers compare; nothing if one of them is undefined or no number. -/
def compare? (a b : Atom) : Option Ordering :=
  match a.whole?, b.whole? with
  | some m, some n => some (compare m n)
  | some m, none => match b with
    | .float y => Number.compareIntFloat m y
    | _ => none
  | none, some n => match a with
    | .float x => (Number.compareIntFloat n x).map Ordering.swap
    | _ => none
  | none, none => match a, b with
    | .float x, .float y =>
      if x == y then some .eq else if x < y then some .lt else if y < x then some .gt else none
    | _, _ => none

/-- Whether two atoms are equal as values. -/
def same (a b : Atom) : Bool :=
  match a, b with
  | .null, .null => true
  | .text s, .text t => s == t
  | _, _ => compare? a b == some .eq

/-- The order of two texts or two numbers; nothing for atoms that have no order. -/
def less? (a b : Atom) : Option Bool :=
  match a, b with
  | .text s, .text t => some (Text.before s t)
  | .null, _ | _, .null | .text _, _ | _, .text _ => none
  | _, _ => some (compare? a b == some .lt)

/-- Whether an atom is the undefined number. -/
def isUndefined : Atom → Bool
  | .float x => x != x
  | _ => false

/-- Whether two atoms are equal or both are the undefined number, which does not equal itself. -/
def alike (a b : Atom) : Bool := same a b || (a.isUndefined && b.isUndefined)

/-- The atoms without those that agree with an earlier one. -/
def distinctBy (agree : Atom → Atom → Bool) (atoms : List Atom) : List Atom :=
  atoms.foldl (fun found a => if found.any (agree a) then found else found ++ [a]) []

/-- The atoms without those that equal an earlier one. -/
def distinct (atoms : List Atom) : List Atom := distinctBy same atoms

/-- Puts an atom in front of the first atom that is not smaller. -/
def insertSorted (a : Atom) : List Atom → Option (List Atom)
  | [] => some [a]
  | b :: rest => do
    if ← less? b a then
      let tail ← insertSorted a rest
      pure (b :: tail)
    else pure (a :: b :: rest)

/-- The atoms in ascending order; nothing if two of them have no order. -/
def sorted? : List Atom → Option (List Atom)
  | [] => some []
  | a :: rest => do insertSorted a (← sorted? rest)

/-- The text of an atom: a text as it is, anything else by its name or its number. -/
def display : Atom → Text
  | .null => "None"
  | .bool b => if b then "True" else "False"
  | .int n => toString n
  | .float x => Number.shortest x
  | .text s => s

/-- The text of an atom inside an array or object, where texts are quoted. -/
def displayInside : Atom → Text
  | .text s => Text.quoted s
  | a => a.display

end Atom

namespace Json

/-- The null value. -/
abbrev null : Json := .atom .null

/-- A truth value. -/
abbrev bool (b : Bool) : Json := .atom (.bool b)

/-- A whole number. -/
abbrev int (n : Int) : Json := .atom (.int n)

/-- A double. -/
abbrev float (x : Float) : Json := .atom (.float x)

/-- A text. -/
abbrev text (s : Text) : Json := .atom (.text s)

/-- Whether a value is empty: null, false, zero, or without any part. -/
def isVacant : Json → Bool
  | .atom .null => true
  | .atom (.bool b) => !b
  | .atom (.int n) => n == 0
  | .atom (.float x) => x == 0
  | .atom (.text s) => s.isEmpty
  | .arr items => items.isEmpty
  | .obj members => members.isEmpty

/-- The value under a key of an object. -/
def get? (value : Json) (key : Text) : Option Json :=
  match value with
  | .obj members => Ledger.get? members key
  | _ => none

mutual

/-- The text of a value that stands inside another. -/
def displayInside : Json → Text
  | .atom a => a.displayInside
  | .arr items => "[" ++ Text.join ", " (displayItems items) ++ "]"
  | .obj members => "\x7b" ++ Text.join ", " (displayMembers members) ++ "\x7d"

/-- The texts of an array's items. -/
def displayItems : List Json → List Text
  | [] => []
  | v :: rest => displayInside v :: displayItems rest

/-- The texts of an object's members. -/
def displayMembers : List (Text × Json) → List Text
  | [] => []
  | (key, v) :: rest => (Text.quoted key ++ ": " ++ displayInside v) :: displayMembers rest

end

/-- The text of a value. -/
def display : Json → Text
  | .atom a => a.display
  | v => v.displayInside

end Json

end EntitySearch
