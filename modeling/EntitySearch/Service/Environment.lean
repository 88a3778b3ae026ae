import EntitySearch.Text.Encoding
/-!
# Environments

An environment holds names with values as bytes. Texts are written in UTF-8, where each surrogate of
a certain range stands for one byte that is no part of a character; bytes are read back the same
way, so that several such surrogates may come back as a character.
-/

namespace EntitySearch.Environment

/-- Why an environment does not take a variable. -/
inductive EntryError where
  /-- A code point stands for no bytes. -/
  | notEncodable
  /-- The name or the value holds what ends them. -/
  | malformed
  /-- The name is empty. -/
  | noName
  deriving Repr, DecidableEq

/-- The bytes of a code point. -/
def bytesOf? : CodePoint → Option (List Nat)
  | .char c => some (Text.utf8Bytes c)
  | .surrogate offset =>
    if 0x480 ≤ offset.val ∧ offset.val < 0x500 then some [offset.val - 0x400] else none

/-- The bytes of a text. -/
def encode (text : Text) : Except EntryError (List Nat) :=
  match text.mapM bytesOf? with
  | some bytes => pure bytes.flatten
  | none => throw .notEncodable

/-- The character whose bytes are given, all of them. -/
def characterOf? (bytes : List Nat) : Option Char :=
  match Text.decodeUtf8 bytes with
  | [c] => if Text.utf8Bytes c == bytes then some c else none
  | _ => none

/-- The text of bytes. -/
def decode : List Nat → Text
  | [] => []
  | b :: rest =>
    let following := ((Text.leadByte b).map Prod.fst).getD 0
    match characterOf? (b :: rest.take following) with
    | some c => .char c :: decode (rest.drop following)
    | none => .ofCode (0xDC00 + b) :: decode rest
termination_by bytes => bytes.length
decreasing_by
  · simp only [List.length_drop, List.length_cons]
    omega
  · simp

/-- A variable as an environment holds it. -/
def entry (name value : Text) : Except EntryError (Text × Text) := do
  let nameBytes ← encode name
  let valueBytes ← encode value
  if nameBytes.contains 0 || valueBytes.contains 0 then throw .malformed
  if nameBytes.isEmpty then throw .noName
  if nameBytes.contains 0x3D then throw .malformed
  pure (decode nameBytes, decode valueBytes)

end EntitySearch.Environment
