import EntitySearch.Text.Basic
import EntitySearch.Url.Label.Composition
import EntitySearch.Url.Label.Context
import EntitySearch.Url.Label.Direction
import EntitySearch.Url.Label.Permitted
import EntitySearch.Url.Punycode
/-!
# Labels

A label is a word of a host name. It is composed, does not begin with a mark, has no hyphen at
either end and no two of them behind its second character, holds only code points that are permitted
where they stand, and keeps the rules of direction. A label outside ASCII is sent in Punycode behind
a sign that says so; a label with that sign must be the Punycode of a valid label.
-/

namespace EntitySearch.Url.Label

/-- Why code points form no label. -/
inductive LabelError where
  /-- The label does not have the form of labels. -/
  | malformed
  /-- A code point stands in no label. -/
  | codePoint
  /-- A code point other than a joiner does not stand between the neighbours it needs. -/
  | neighbours
  /-- The rules of direction are broken. -/
  | direction
  deriving Repr, DecidableEq

/-- Nothing if a condition holds, and an error otherwise. -/
def require (condition : Bool) (e : LabelError) : Except LabelError Unit :=
  if condition then pure () else throw e

/-- Whether the hyphens of a label stand where they may. -/
def hasValidHyphens (codes : List Nat) : Bool :=
  (codes.drop 2).take 2 != [0x2D, 0x2D] && codes.head? != some 0x2D && codes.getLast? != some 0x2D

/-- Checks that a code point may stand between others: those before it, nearest first, and those
behind it. -/
def checkCode (before : List Nat) (n : Nat) (after : List Nat) : Except LabelError Unit :=
  if isPermitted n then pure ()
  else if isJoiner n then
    require (isPermittedBetween before n after && !before.head?.any isUndirected) .malformed
  else if isDependent n then require (isPermittedBetween before n after) .neighbours
  else throw .codePoint

/-- Checks that code points are permitted where they stand; `before` holds the earlier ones, nearest
first. -/
def checkCodes (before : List Nat) : List Nat → Except LabelError Unit
  | [] => pure ()
  | n :: rest => do
    checkCode before n rest
    checkCodes (n :: before) rest

/-- Checks that code points form a label. -/
def check (codes : List Nat) : Except LabelError Unit := do
  require (!codes.isEmpty && isComposed codes && hasValidHyphens codes && !codes.head?.any isMark)
    .malformed
  checkCodes [] codes
  require (!codes.any isUndirected && hasValidDirections codes) .direction

/-- The longest label in ASCII. -/
def maxLength : Nat := 63

/-- The sign in front of a label in Punycode. -/
def sign : List Char := ['x', 'n', '-', '-']

/-- The label that an ASCII text is or spells in Punycode. -/
def ofAscii (text : List Char) : Except LabelError Text :=
  let label := text.map Char.toLower
  if sign.isPrefixOf label then
    let encoded := label.drop sign.length
    if encoded.isEmpty || encoded.getLast? == some '-' then throw .malformed
    else
      match Punycode.decode? encoded with
      | none => throw .malformed
      | some codes => do
        check codes
        pure (codes.map CodePoint.ofCode)
  else do
    check (label.map Char.toNat)
    pure (.ofChars label)

/-- A label in ASCII; nothing if it is not valid or too long. -/
def toAscii? (label : Text) : Option (List Char) :=
  let ascii := label.chars?.filter (·.all (·.toNat < 0x80))
  let encoded := match ascii with
    | some chars => (ofAscii chars).toOption.map fun _ => chars
    | none =>
      let codes := label.map CodePoint.code
      (check codes).toOption.map fun _ => sign ++ Punycode.encode codes
  encoded.filter (·.length ≤ maxLength)

end EntitySearch.Url.Label
