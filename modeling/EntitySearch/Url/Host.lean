import EntitySearch.Text.Lowercase
import EntitySearch.Url.Escape
import EntitySearch.Url.Label.Basic
/-!
# Hosts

A host is an address of four numbers, an address of eight groups between brackets, or a name. A
name in ASCII is taken in lower case with other characters escaped. Any other name is a sequence of
labels, each of which is brought into ASCII.
-/

namespace EntitySearch.Url.Host

/-! ## Numeric addresses -/

/-- Whether a text consists of four runs of digits with points between them. -/
def isNumeric (text : List Char) : Bool :=
  let parts := splitOn '.' text
  parts.length == 4 && parts.all fun part => !part.isEmpty && part.all Char.isDigit

/-- Whether a text is a number below 256 without zeros in front. -/
def isOctet (text : List Char) : Bool :=
  !text.isEmpty && text.length ≤ 3 && text.all Char.isDigit
    && (text.length == 1 || text.head? != some '0')
    && Text.ofDigits (text.map fun c => c.toNat - 48) < 256

/-- Whether a text is an address of four numbers. -/
def isFourNumbers (text : List Char) : Bool :=
  let parts := splitOn '.' text
  parts.length == 4 && parts.all isOctet

/-- Whether a text is a group of at most four hexadecimal digits. -/
def isGroup (text : List Char) : Bool :=
  !text.isEmpty && text.length ≤ 4 && text.all fun c => (Text.hexDigit? c).isSome

/-- The groups of an address, where a last part of four numbers stands for two groups. -/
def groups? (text : List Char) : Option (List (List Char)) :=
  let parts := splitOn ':' text
  let last := parts.getLastD []
  if last.contains '.' then
    if isFourNumbers last then some (parts.dropLast ++ [['0'], ['0']]) else none
  else some parts

/-- Whether parts are eight groups. In place of one group or more there may be an empty part, with
another empty part beside it at an end of the address. -/
def areEightGroups (parts : List (List Char)) : Bool :=
  if parts.length < 3 || 9 < parts.length then false
  else
    let inner := parts.tail.dropLast
    match inner.countP List.isEmpty with
    | 0 => parts.length == 8 && parts.all isGroup
    | 1 =>
      let front := parts.takeWhile (fun p => !p.isEmpty)
      let back := (parts.reverse.takeWhile (fun p => !p.isEmpty)).reverse
      let left := if parts.head? == some [] then [] else front
      let right := if parts.getLast? == some [] then [] else back
      let empty := parts.length - left.length - right.length
      let ends := (if parts.head? == some [] then 1 else 0)
        + (if parts.getLast? == some [] then 1 else 0)
      empty == 1 + ends && left.length + right.length < 8 && (left ++ right).all isGroup
    | _ => false

/-- Whether a text is an address of eight groups, perhaps with a zone behind a percent sign.
Whatever the zone is called, it has no percent sign itself. -/
def isEightGroups (text : Text) : Bool :=
  let (address, zone) := Text.cutAt (fun c : CodePoint => c == '%') text
  let zoneOk := match zone with
    | none => true
    | some zone => !zone.isEmpty && !zone.contains '%'
  zoneOk && match (Text.chars? address).bind groups? with
    | some parts => areEightGroups parts
    | none => false

/-! ## Names -/

/-- Whether a code point stands between labels. -/
def isDot (c : CodePoint) : Bool := c == '.' || c == '\u3002' || c == '\uff0e' || c == '\uff61'

/-- The longest name, without a dot at its end. -/
def maxLength : Nat := 253

/-- A name in ASCII. A dot may follow the last label. -/
def encodeName? (name : Text) : Option (List Char) := do
  let labels := Text.splitWhere isDot name
  let dotted := labels.getLast? == some []
  let encoded ← (if dotted then labels.dropLast else labels).mapM Label.toAscii?
  let whole := joinWith '.' (if dotted then encoded ++ [[]] else encoded)
  let allowed := if dotted then maxLength + 1 else maxLength
  if maxLength + 1 < name.length || allowed < whole.length then none else pure whole

/-- A name in plain letters: if it begins with a label in Punycode, all its labels are read. -/
def decodeName (name : Text) : Except Label.LabelError Text :=
  if !(Text.ofChars Label.sign).isPrefixOf name then pure name
  else
    match name.chars? with
    | none => throw .malformed
    | some chars => do
      Label.require (chars.length ≤ maxLength + 1) .malformed
      let labels := splitOn '.' chars
      let dotted := labels.getLast? == some []
      let decoded ← (if dotted then labels.dropLast else labels).mapM Label.ofAscii
      pure (Text.join "." (if dotted then decoded ++ [[]] else decoded))

/-- The characters of a name in ASCII that are not escaped. -/
def isNamePart (c : Char) : Bool := isUnreserved c || "!$&'()*+,;=\"`\x7b\x7d%|\\".toList.contains c

/-! ## Hosts -/

/-- The normal form of a host; nothing if it is not valid. Only a zone may lie outside ASCII. -/
def normal? (host : Text) : Option Text :=
  let ascii := host.chars?.filter (·.all (·.toNat < 0x80))
  if host.head? == some (.char '[') && host.getLast? == some (.char ']') then
    let address := (host.drop 1).dropLast
    if isEightGroups address then some address else none
  else
    match ascii with
    | some chars =>
      if isNumeric chars then if isFourNumbers chars then some host else none
      else some (.ofChars (escapeAgain isNamePart (chars.map Char.toLower)))
    | none => (encodeName? (Text.lower host)).map .ofChars

end EntitySearch.Url.Host
