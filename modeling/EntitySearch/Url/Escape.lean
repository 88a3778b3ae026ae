import EntitySearch.Text.Digit
import EntitySearch.Text.Encoding
import EntitySearch.Text.Printable
/-!
# Escapes in addresses

A percent sign with two hexadecimal digits stands for a byte of UTF-8. `escape` writes a text whose
characters are kept or escaped one by one, `escapeAgain` one in which escapes may already stand, and
`unescape` reads an escaped text.
-/

namespace EntitySearch.Url

/-! ## Writing -/

/-- A byte as an escape. -/
def escapeByte (b : Nat) : List Char := '%' :: (Text.hexadecimal 2 b).map Char.toUpper

/-- A character, escaped unless it is kept. -/
def escapeChar (keep : Char → Bool) (c : Char) : List Char :=
  if keep c then [c] else (Text.utf8Bytes c).flatMap escapeByte

/-- A text with all characters escaped that are not kept. -/
def escape (keep : Char → Bool) (text : List Char) : List Char := text.flatMap (escapeChar keep)

/-- A text with all characters escaped that are not kept and do not belong to an escape. -/
def escapeAgain (keep : Char → Bool) : List Char → List Char
  | [] => []
  | '%' :: a :: b :: rest =>
    if (Text.hexDigit? a).isSome && (Text.hexDigit? b).isSome then
      '%' :: a :: b :: escapeAgain keep rest
    else escapeChar keep '%' ++ escapeAgain keep (a :: b :: rest)
  | c :: rest => escapeChar keep c ++ escapeAgain keep rest

/-- The characters that never need an escape. -/
def isUnreserved (c : Char) : Bool := c.isAlphanum || "-._~".toList.contains c

/-! ## Reading -/

/-- The bytes that a text of ASCII characters stands for. -/
def unescapeBytes : List Char → List Nat
  | '%' :: a :: b :: rest =>
    match Text.hexDigit? a, Text.hexDigit? b with
    | some x, some y => (x * 16 + y) :: unescapeBytes rest
    | _, _ => 0x25 :: unescapeBytes (a :: b :: rest)
  | c :: rest => c.toNat :: unescapeBytes rest
  | [] => []

/-- The text that an escaped text stands for. Characters outside ASCII stand for themselves. -/
def unescape (text : List Char) : List Char :=
  (text.splitBy fun a b => (a.toNat < 0x80) == (b.toNat < 0x80)).flatMap fun run =>
    if run.all (·.toNat < 0x80) then Text.decodeUtf8 (unescapeBytes run) else run

/-- The parts of a text between separators. -/
def splitOn (separator : Char) (text : List Char) : List (List Char) :=
  Text.splitWhere (· == separator) text

/-- Parts with a separator between them. -/
def joinWith (separator : Char) (parts : List (List Char)) : List Char :=
  [separator].intercalate parts

end EntitySearch.Url
