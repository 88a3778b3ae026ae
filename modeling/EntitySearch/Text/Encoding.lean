import EntitySearch.Text.Units
/-!
# Texts as bytes

A text is written in UTF-8. Bytes are read as UTF-8, as UTF-16 or as UTF-32. In UTF-8, where bytes
are not well formed, each longest start of a well-formed sequence, or else a single byte, becomes
the replacement character. In the other two forms surrogates may stand alone, and what has no
meaning makes the whole unreadable.
-/

namespace EntitySearch.Text

/-! ## UTF-8 -/

/-- The bytes of a character. -/
def utf8Bytes (c : Char) : List Nat :=
  let n := c.toNat
  if n < 0x80 then [n]
  else if n < 0x800 then [0xC0 + n / 0x40, 0x80 + n % 0x40]
  else if n < 0x10000 then [0xE0 + n / 0x1000, 0x80 + n / 0x40 % 0x40, 0x80 + n % 0x40]
  else [0xF0 + n / 0x40000, 0x80 + n / 0x1000 % 0x40, 0x80 + n / 0x40 % 0x40, 0x80 + n % 0x40]

/-- The bytes of characters. -/
def encodeUtf8 (chars : List Char) : List Nat := chars.flatMap utf8Bytes

/-- The replacement character. -/
def replacement : Char := '\ufffd'

/-- For the first byte of a sequence: how many bytes follow, the bits that it contributes, and the
range of the second byte. -/
def leadByte (b : Nat) : Option (Nat × Nat × Nat × Nat) :=
  if 0xC2 ≤ b ∧ b ≤ 0xDF then some (1, b - 0xC0, 0x80, 0xBF)
  else if b = 0xE0 then some (2, 0, 0xA0, 0xBF)
  else if b = 0xED then some (2, 0xD, 0x80, 0x9F)
  else if 0xE1 ≤ b ∧ b ≤ 0xEF then some (2, b - 0xE0, 0x80, 0xBF)
  else if b = 0xF0 then some (3, 0, 0x90, 0xBF)
  else if 0xF1 ≤ b ∧ b ≤ 0xF3 then some (3, b - 0xF0, 0x80, 0xBF)
  else if b = 0xF4 then some (3, 4, 0x80, 0x8F)
  else none

/-- What has been read of a sequence that is not complete: the bits so far, how many bytes are
missing, and the range of the next one. -/
structure Partial where
  bits : Nat
  missing : Nat
  low : Nat
  high : Nat

/-- The state after a byte that begins something new, with the characters it completes. -/
def beginByte (b : Nat) : Option Partial × List Char :=
  if b < 0x80 then (none, [Char.ofNat b])
  else
    match leadByte b with
    | some (missing, bits, low, high) => (some ⟨bits, missing, low, high⟩, [])
    | none => (none, [replacement])

/-- The state after one more byte, with the characters it completes. -/
def nextByte (state : Option Partial) (b : Nat) : Option Partial × List Char :=
  match state with
  | none => beginByte b
  | some p =>
    if p.low ≤ b ∧ b ≤ p.high then
      let bits := p.bits * 64 + (b - 0x80)
      if p.missing ≤ 1 then (none, [Char.ofNat bits])
      else (some ⟨bits, p.missing - 1, 0x80, 0xBF⟩, [])
    else
      let (state, chars) := beginByte b
      (state, replacement :: chars)

/-- The characters of bytes from a state on. -/
def decodeFrom (state : Option Partial) : List Nat → List Char
  | [] => if state.isSome then [replacement] else []
  | b :: rest => let (state, chars) := nextByte state b; chars ++ decodeFrom state rest

/-- The characters of bytes. -/
def decodeUtf8 (bytes : List Nat) : List Char := decodeFrom none bytes

/-! ## UTF-16 and UTF-32 -/

/-- Which byte of a unit comes first. -/
inductive ByteOrder where
  /-- The most significant one. -/
  | big
  /-- The least significant one. -/
  | little
  deriving Repr, DecidableEq

/-- The number that the bytes of a unit spell. -/
def ByteOrder.unit (order : ByteOrder) (bytes : List Nat) : Nat :=
  let ordered := match order with
    | .big => bytes
    | .little => bytes.reverse
  ordered.foldl (fun n b => n * 0x100 + b) 0

/-- The units of two bytes each, if there is no byte left over. -/
def pairUnits (order : ByteOrder) : List Nat → Option (List Nat)
  | [] => some []
  | a :: b :: rest => (pairUnits order rest).map (order.unit [a, b] :: ·)
  | _ => none

/-- The text of bytes in UTF-16. -/
def decodeUtf16 (order : ByteOrder) (bytes : List Nat) : Option Text :=
  (pairUnits order bytes).map ofUnits

/-- The text of bytes in UTF-32. -/
def decodeUtf32 (order : ByteOrder) : List Nat → Option Text
  | [] => some []
  | a :: b :: c :: d :: rest =>
    let n := order.unit [a, b, c, d]
    if n ≤ 0x10FFFF then (decodeUtf32 order rest).map (.ofCode n :: ·) else none
  | _ => none

/-! ## The byte order mark -/

/-- The mark that may stand in front of a text. -/
def byteOrderMark : Char := '\ufeff'

/-- A text without the mark in front of it. -/
def dropMark : Text → Text
  | [] => []
  | c :: rest => if c = byteOrderMark then rest else c :: rest

end EntitySearch.Text
