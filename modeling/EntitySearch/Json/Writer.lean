import EntitySearch.Json.Value
import EntitySearch.Text.Units
/-!
# Writing JSON

`Json.render` writes a value without blanks. Characters outside ASCII are escaped by their UTF-16
units, so the text is plain ASCII; doubles are written as the shortest decimal that reads back. A
value that is sent in UTF-8 instead must be sendable: its numbers finite, its texts well formed.
-/

namespace EntitySearch.Json

/-- An escaped UTF-16 unit. -/
def escapeUnit (n : Nat) : List Char := '\\' :: 'u' :: Text.hexadecimal 4 n

/-- The code point of a number, escaped. -/
def escapeUnits (n : Nat) : List Char := (Text.unitsOf n).flatMap escapeUnit

/-- A code point inside a string. -/
def escapePoint : CodePoint → List Char
  | .char c =>
    if c = '"' then ['\\', '"']
    else if c = '\\' then ['\\', '\\']
    else if c = '\n' then ['\\', 'n']
    else if c = '\r' then ['\\', 'r']
    else if c = '\t' then ['\\', 't']
    else if c = '\x08' then ['\\', 'b']
    else if c = '\x0c' then ['\\', 'f']
    else if 0x20 ≤ c.toNat ∧ c.toNat < 0x7F then [c]
    else escapeUnits c.toNat
  | c => escapeUnits c.code

/-- A string between quotes. -/
def renderString (text : Text) : String :=
  String.ofList ('"' :: text.flatMap escapePoint ++ ['"'])

/-- A double; one without a size has a name. -/
def renderFloat (x : Float) : String :=
  match Number.Parts.ofFloat x with
  | .undefined => "NaN"
  | .infinite negative => if negative then "-Infinity" else "Infinity"
  | .finite .. => Number.shortest x

/-- An atom. -/
def renderAtom : Atom → String
  | .null => "null"
  | .bool b => if b then "true" else "false"
  | .int n => toString n
  | .float x => renderFloat x
  | .text s => renderString s

mutual

/-- The text of a value. -/
def render : Json → String
  | .atom a => renderAtom a
  | .arr items => "[" ++ ",".intercalate (renderItems items) ++ "]"
  | .obj members => "\x7b" ++ ",".intercalate (renderMembers members) ++ "\x7d"

/-- The texts of an array's items. -/
def renderItems : List Json → List String
  | [] => []
  | v :: rest => render v :: renderItems rest

/-- The texts of an object's members. -/
def renderMembers : List (Text × Json) → List String
  | [] => []
  | (key, v) :: rest => (renderString key ++ ":" ++ render v) :: renderMembers rest

end

/-! ## What can be sent -/

/-- Whether an atom can be sent. -/
def isSendableAtom : Atom → Bool
  | .float x => Number.isFiniteFloat x
  | .text s => Text.isWellFormed s
  | _ => true

mutual

/-- Whether a value can be sent: its numbers are finite, and its texts and keys are well formed. -/
def isSendable : Json → Bool
  | .atom a => isSendableAtom a
  | .arr items => itemsSendable items
  | .obj members => membersSendable members

/-- Whether an array's items can be sent. -/
def itemsSendable : List Json → Bool
  | [] => true
  | v :: rest => isSendable v && itemsSendable rest

/-- Whether an object's members can be sent. -/
def membersSendable : List (Text × Json) → Bool
  | [] => true
  | (key, v) :: rest => Text.isWellFormed key && isSendable v && membersSendable rest

end

/-- An atom, or null in place of a number that is not finite. -/
def finiteAtom : Atom → Atom
  | .float x => if Number.isFiniteFloat x then .float x else .null
  | a => a

mutual

/-- A value with null in place of numbers that are not finite. -/
def finitePart : Json → Json
  | .atom a => .atom (finiteAtom a)
  | .arr items => .arr (finiteItems items)
  | .obj members => .obj (finiteMembers members)

/-- An array's items with null in place of numbers that are not finite. -/
def finiteItems : List Json → List Json
  | [] => []
  | v :: rest => finitePart v :: finiteItems rest

/-- An object's members with null in place of numbers that are not finite. -/
def finiteMembers : List (Text × Json) → List (Text × Json)
  | [] => []
  | (key, v) :: rest => (key, finitePart v) :: finiteMembers rest

end

end EntitySearch.Json
