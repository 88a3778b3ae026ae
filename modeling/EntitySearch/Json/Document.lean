import EntitySearch.Json.Reader
import EntitySearch.Text.Encoding
/-!
# JSON documents

A document is a sequence of bytes that holds one JSON value. Its first character is ASCII, so the
zeros among its first four bytes tell whether it is written in UTF-8, in UTF-16 or in UTF-32. A
document in UTF-8 may have a byte order mark in front.
-/

namespace EntitySearch.Json

/-- How the characters of a document are written. -/
inductive DocumentForm where
  | utf8
  | utf16 (order : Text.ByteOrder)
  | utf32 (order : Text.ByteOrder)
  deriving Repr, DecidableEq

/-- The form of a document, by the zeros among its first bytes. -/
def DocumentForm.ofBytes : List Nat → DocumentForm
  | 0 :: b :: _ :: _ :: _ => if b ≠ 0 then .utf16 .big else .utf32 .big
  | _ :: 0 :: c :: d :: _ => if c ≠ 0 ∨ d ≠ 0 then .utf16 .little else .utf32 .little
  | [0, _] => .utf16 .big
  | [_, 0] => .utf16 .little
  | _ => .utf8

/-- Reads a document that is given by the characters which its bytes spell in UTF-8. Arrays and
objects may be nested `depth` deep. -/
def parseDocument (depth : Nat) (chars : List Char) : Except SyntaxError Json :=
  let bytes := Text.encodeUtf8 chars
  let decoded := match DocumentForm.ofBytes bytes with
    | .utf8 => some (Text.dropMark (.ofChars chars))
    | .utf16 order => Text.decodeUtf16 order bytes
    | .utf32 order => Text.decodeUtf32 order bytes
  match decoded with
  | some text => parse depth text
  | none => .error .undecodable

end EntitySearch.Json
