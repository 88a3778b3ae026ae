import EntitySearch.Text.Blank
/-!
# Lexical queries

A lexical query asks for documents with a word that begins with one of several prefixes. It is
written as the prefixes, each with a star behind it, joined by ` OR `. `split` recovers the
prefixes from the written form.
-/

namespace EntitySearch.Lexical

/-- What stands between two prefixes. -/
def separator : Text := [' ', 'O', 'R', ' ']

/-- The parts of a text between separators. -/
def splitParts : Text → List Text
  | [] => [[]]
  | .char ' ' :: .char 'O' :: .char 'R' :: .char ' ' :: rest => [] :: splitParts rest
  | c :: rest =>
    match splitParts rest with
    | [] => [[c]]
    | part :: parts => (c :: part) :: parts

/-- A part without one star at its end. -/
def dropStar (part : Text) : Text :=
  if part.getLast? = some (.char '*') then part.dropLast else part

/-- The prefixes that a written lexical query asks for: the parts without surrounding blanks and
without one star at the end, as far as something is left of them. -/
def split (compiled : Text) : List Text :=
  ((splitParts compiled).map (fun part => dropStar (Text.strip part))).filter (· ≠ [])

/-- The lexical query for a list of terms; without terms it is empty. -/
def build (terms : List Text) : Text := Text.join separator (terms.map (· ++ "*"))

end EntitySearch.Lexical
