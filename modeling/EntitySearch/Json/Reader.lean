import EntitySearch.Json.Value
import EntitySearch.Number.Reading
import EntitySearch.Text.Units
/-!
# Reading JSON

`Json.parse` reads a text as one JSON value. Beyond the standard grammar it takes the names `NaN`,
`Infinity` and `-Infinity` as numbers; of equal keys in an object the last value counts; a whole
number may have at most 4300 digits, and there is a bound on how deep values are nested. An escaped
surrogate that stands alone is kept.
-/

namespace EntitySearch.Json

open Number (ofDecimal infinity undefinedFloat maxDigits)

/-- Why a text is not read as a JSON value. -/
inductive SyntaxError where
  /-- The text does not follow the grammar. -/
  | malformed
  /-- A whole number has too many digits. -/
  | numberTooLong
  /-- Arrays and objects are nested too deeply. -/
  | nestedTooDeep
  /-- The bytes of a document are no text. -/
  | undecodable
  deriving Repr, DecidableEq

/-- The blanks between the tokens of a JSON text. -/
def isSpace (c : CodePoint) : Bool :=
  c == ' ' || c == '\t' || c == '\n' || c == '\r'

/-- The text from the first character that is no blank. -/
def skipSpace (text : Text) : Text := text.dropWhile isSpace

/-- The value of an ASCII digit. -/
def asciiDigit? (c : CodePoint) : Option Nat :=
  if c.is Char.isDigit then some (c.code - 48) else none

/-- The number that four hexadecimal digits spell, and what follows them. -/
def readUnit : Text → Option (Nat × Text)
  | .char a :: .char b :: .char c :: .char d :: rest => do
    let a ← Text.hexDigit? a
    let b ← Text.hexDigit? b
    let c ← Text.hexDigit? c
    let d ← Text.hexDigit? d
    pure (((a * 16 + b) * 16 + c) * 16 + d, rest)
  | _ => none

/-- The code point of an escaped unit, joined with an escaped second half that follows it. -/
def joinUnits (n : Nat) (rest : Text) : CodePoint × Text :=
  match rest with
  | .char '\\' :: .char 'u' :: more =>
    match readUnit more with
    | some (low, rest') =>
      if Text.isHighUnit n && Text.isLowUnit low then (.ofCode (Text.joinPair n low), rest')
      else (.ofCode n, rest)
    | none => (.ofCode n, rest)
  | _ => (.ofCode n, rest)

/-- The character that follows a backslash, by its name. -/
def namedEscape? : Char → Option Char
  | '"' => some '"'
  | '\\' => some '\\'
  | '/' => some '/'
  | 'b' => some '\x08'
  | 'f' => some '\x0c'
  | 'n' => some '\n'
  | 'r' => some '\r'
  | 't' => some '\t'
  | _ => none

/-- The text of a string up to its closing quote, and what follows; `read` holds what has been read
so far, last first. Control characters must be escaped. -/
def readString : Nat → Text → Text → Except SyntaxError (Text × Text)
  | 0, _, _ => .error .malformed
  | _ + 1, _, [] => .error .malformed
  | _ + 1, read, .char '"' :: rest => .ok (read.reverse, rest)
  | fuel + 1, read, .char '\\' :: .char 'u' :: rest =>
    match readUnit rest with
    | some (n, rest) =>
      let (c, rest) := joinUnits n rest
      readString fuel (c :: read) rest
    | none => .error .malformed
  | fuel + 1, read, .char '\\' :: .char e :: rest =>
    match namedEscape? e with
    | some c => readString fuel (c :: read) rest
    | none => .error .malformed
  | fuel + 1, read, c :: rest =>
    if c == '\\' || c.code < 0x20 then .error .malformed else readString fuel (c :: read) rest

/-- The ASCII digits at the front of a text, and what follows. -/
def takeDigits : Text → List Nat × Text
  | [] => ([], [])
  | c :: rest =>
    match asciiDigit? c with
    | some d => let (ds, rest) := takeDigits rest; (d :: ds, rest)
    | none => ([], c :: rest)

/-- The digits after a point, if a point with digits stands in front. -/
def takeFraction : Text → Option (List Nat × Text)
  | .char '.' :: rest =>
    match takeDigits rest with
    | ([], _) => none
    | found => some found
  | _ => none

/-- The exponent in front of a text, if there is one. -/
def takeExponent : Text → Option (Int × Text)
  | e :: rest =>
    if e == 'e' || e == 'E' then
      let (negative, digits) := Number.splitSign rest
      match takeDigits digits with
      | ([], _) => none
      | (ds, rest) =>
        let n : Int := Text.ofDigits ds
        some (if negative then -n else n, rest)
    else none
  | [] => none

/-- The number at the front of a text, after its sign. The whole part is a single zero or begins
with another digit. -/
def readNumber (negative : Bool) (text : Text) : Except SyntaxError (Json × Text) :=
  let (whole, rest) := match text with
    | .char '0' :: rest => ([0], rest)
    | _ => takeDigits text
  if whole.isEmpty then .error .malformed
  else
    let fraction := takeFraction rest
    let afterFraction := (fraction.map Prod.snd).getD rest
    let exponent := takeExponent afterFraction
    match fraction, exponent with
    | none, none =>
      if maxDigits < whole.length then .error .numberTooLong
      else
        let n : Int := Text.ofDigits whole
        .ok (.int (if negative then -n else n), rest)
    | _, _ =>
      let decimals := (fraction.map Prod.fst).getD []
      let scale := (exponent.map Prod.fst).getD 0
      let digits := Text.ofDigits (whole ++ decimals)
      .ok (.float (ofDecimal negative digits (scale - decimals.length)),
        (exponent.map Prod.snd).getD afterFraction)

/-- What follows a word at the front of a text. -/
def dropWord (word text : Text) : Option Text :=
  if word.isPrefixOf text then some (text.drop word.length) else none

/-- A value that is neither a string nor made of parts, at the front of a text. -/
def readScalar (text : Text) : Except SyntaxError (Json × Text) :=
  let named : List (Text × Json) :=
    [("null", null), ("true", bool true), ("false", bool false),
      ("NaN", float undefinedFloat), ("Infinity", float (infinity false)),
      ("-Infinity", float (infinity true))]
  match named.findSome? (fun (word, value) => (dropWord word text).map (value, ·)) with
  | some found => .ok found
  | none =>
    match text with
    | .char '-' :: rest => readNumber true rest
    | _ => readNumber false text

mutual

/-- The value at the front of a text, and what follows it. -/
def readValue : Nat → Nat → Text → Except SyntaxError (Json × Text)
  | 0, _, _ => .error .malformed
  | fuel + 1, depth, text =>
    match text with
    | .char '"' :: rest => do
      let (s, rest) ← readString (rest.length + 1) [] rest
      pure (.text s, rest)
    | .char '[' :: rest =>
      match depth with
      | 0 => .error .nestedTooDeep
      | depth + 1 =>
        match skipSpace rest with
        | .char ']' :: rest => .ok (.arr [], rest)
        | rest => readItems fuel depth [] rest
    | .char '\x7b' :: rest =>
      match depth with
      | 0 => .error .nestedTooDeep
      | depth + 1 =>
        match skipSpace rest with
        | .char '\x7d' :: rest => .ok (.obj [], rest)
        | rest => readMembers fuel depth [] rest
    | _ => readScalar text

/-- The items of an array from one of them to the closing bracket; `read` holds the earlier ones,
last first. -/
def readItems : Nat → Nat → List Json → Text → Except SyntaxError (Json × Text)
  | 0, _, _, _ => .error .malformed
  | fuel + 1, depth, read, text => do
    let (item, rest) ← readValue fuel depth (skipSpace text)
    match skipSpace rest with
    | .char ',' :: rest => readItems fuel depth (item :: read) rest
    | .char ']' :: rest => pure (.arr (item :: read).reverse, rest)
    | _ => .error .malformed

/-- The members of an object from one of them to the closing brace; `read` holds the earlier
ones. -/
def readMembers :
    Nat → Nat → Ledger Text Json → Text → Except SyntaxError (Json × Text)
  | 0, _, _, _ => .error .malformed
  | fuel + 1, depth, read, text =>
    match skipSpace text with
    | .char '"' :: rest => do
      let (key, rest) ← readString (rest.length + 1) [] rest
      match skipSpace rest with
      | .char ':' :: rest =>
        let (value, rest) ← readValue fuel depth (skipSpace rest)
        let read := read.put key value
        match skipSpace rest with
        | .char ',' :: rest => readMembers fuel depth read rest
        | .char '\x7d' :: rest => pure (.obj read, rest)
        | _ => .error .malformed
      | _ => .error .malformed
    | _ => .error .malformed

end

/-- Reads a text as one JSON value with blanks around it. Arrays and objects may be nested `depth`
deep. -/
def parse (depth : Nat) (text : Text) : Except SyntaxError Json := do
  let (value, rest) ← readValue (2 * text.length + 2) depth (skipSpace text)
  if (skipSpace rest).isEmpty then pure value else .error .malformed

end EntitySearch.Json
