import EntitySearch.Number.Reading
import EntitySearch.Url.Host
/-!
# Addresses

An address has a scheme, an authority, which is a host with a user and a socket number, a path, a
query and a fragment, all of which may be missing. `Address.read` reads an address and brings it
into its normal form: scheme and host in lower case, no socket number that goes without saying, no
dots in the path, and everything escaped that needs it. `Address.resolve` completes an address by
another.
-/

namespace EntitySearch.Url

/-- An address in its normal form. All of it is ASCII but for the zone that a host may have. -/
structure Address where
  scheme : List Char := []
  user : List Char := []
  host : Text := []
  socket : Option Int := none
  path : List Char := []
  query : Option (List Char) := none
  fragment : Option (List Char) := none
  deriving Repr, DecidableEq

namespace Address

/-- Why a text is no address. -/
inductive ReadError where
  /-- The text does not have the form of an address. -/
  | invalid
  /-- A part of the address holds what cannot be escaped. -/
  | notEncodable
  deriving Repr, DecidableEq

/-! ## The parts of an address -/

/-- An address cut into its parts, as they are written. -/
structure Parts where
  scheme : List Char
  authority : Text
  path : Text
  query : Option Text
  fragment : Option Text

/-- The characters at the front of a text as long as they have a property, and what follows. -/
def takeChars (p : Char → Bool) : Text → List Char × Text
  | [] => ([], [])
  | .char c :: rest =>
    if p c then
      let (chars, rest) := takeChars p rest
      (c :: chars, rest)
    else ([], .char c :: rest)
  | text => ([], text)

/-- The scheme in front of a text, and what follows its colon. -/
def cutScheme (text : Text) : List Char × Text :=
  let (scheme, rest) := takeChars (fun c => c.isAlphanum || c == '+' || c == '.' || c == '-') text
  match rest with
  | .char ':' :: rest => if scheme.head?.all Char.isAlpha then (scheme, rest) else ([], text)
  | _ => ([], text)

/-- The authority in front of a text, behind two slashes, and what follows it. -/
def cutAuthority (text : Text) : Text × Text :=
  match text with
  | .char '/' :: .char '/' :: rest =>
    let authority := rest.takeWhile fun c : CodePoint => c != '/' && c != '?' && c != '#'
    (authority, rest.drop authority.length)
  | _ => ([], text)

/-- Cuts an address into its parts. -/
def parts (text : Text) : Parts :=
  let (scheme, rest) := cutScheme text
  let (authority, rest) := cutAuthority rest
  let (rest, fragment) := Text.cutAt (fun c : CodePoint => c == '#') rest
  let (path, query) := Text.cutAt (fun c : CodePoint => c == '?') rest
  ⟨scheme, authority, path, query, fragment⟩

/-- The user, the host and the socket number of an authority, as they are written. -/
def cutHost (authority : Text) : Text × Text × Text :=
  let (user, place) := (Text.cutAtLast '@' authority).getD ([], authority)
  let bracketed :=
    if place.head? == some (.char '[') then (Text.cutAtLast ']' place).map Prod.fst else none
  let host := match bracketed with
    | some inside => inside ++ "]"
    | none => place.takeWhile (· != ':')
  let socket := match place.drop host.length with
    | .char ':' :: socket => socket
    | socket => socket
  (user, host, socket)

/-! ## Normal forms -/

/-- Whether a character is printed in a normal form unless it is one of some marks. -/
def isKept (marks : String) (c : Char) : Bool :=
  0x20 < c.toNat && c.toNat < 0x7F && !marks.toList.contains c

/-- The characters of a path that are not escaped. -/
def isPathPart : Char → Bool := isKept "\"#<>?`\x7b\x7d"

/-- The characters of a query that are not escaped. -/
def isQueryPart : Char → Bool := isKept "\"#<>"

/-- The characters of a fragment that are not escaped. -/
def isFragmentPart : Char → Bool := isKept "\"<>`"

/-- The characters of a user that are not escaped. -/
def isUserPart : Char → Bool := isKept "\"#<>?`\x7b\x7d/;=@[\\]^|"

/-- The socket numbers that go without saying. -/
def usualSockets : List (String × Int) :=
  [("ftp", 21), ("http", 80), ("https", 443), ("ws", 80), ("wss", 443)]

/-- The socket number that a text spells, if it does not go without saying. -/
def socket? (scheme : List Char) (text : Text) : Option (Option Int) :=
  if text.isEmpty then some none
  else (Number.readInt? text).map fun n =>
    if usualSockets.lookup (String.ofList scheme) == some n then none else some n

/-- The segments of a path without those that only lead back to others; `passed` holds the segments
so far, last first. -/
def dropDots (passed : List (List Char)) : List (List Char) → List (List Char)
  | [] => passed.reverse
  | ['.'] :: rest => dropDots passed rest
  | ['.', '.'] :: rest => dropDots (if passed == [[]] then passed else passed.tail) rest
  | segment :: rest => dropDots (segment :: passed) rest

/-- A path without dots. -/
def plainPath (path : List Char) : List Char := joinWith '/' (dropDots [] (splitOn '/' path))

/-- The longest text that is read as an address. -/
def maxLength : Nat := 65536

/-- Whether a path may follow what stands in front of it. -/
def allowsPath (hasScheme hasAuthority : Bool) (path : Text) : Bool :=
  if hasAuthority then path.isEmpty || path.head? == some (.char '/')
  else hasScheme || !(path.take 2 == "//" || path.head? == some (.char ':'))

/-- A part of an address, escaped. -/
def escaped (keep : Char → Bool) (part : Text) : Except ReadError (List Char) :=
  match part.chars? with
  | some chars => pure (escapeAgain keep chars)
  | none => throw .notEncodable

/-- A part that may be missing, escaped. -/
def escaped? (keep : Char → Bool) : Option Text → Except ReadError (Option (List Char))
  | none => pure none
  | some part => do pure (some (← escaped keep part))

/-- What is found if it is there, and an error otherwise. -/
def orInvalid {β : Type} : Option β → Except ReadError β
  | some x => pure x
  | none => throw .invalid

/-- Whether a code point is one of those that no address holds. -/
def isControl (c : CodePoint) : Bool := c.code < 0x20 || c.code == 0x7F

/-- The address that a text spells, in its normal form. -/
def read (text : Text) : Except ReadError Address := do
  if maxLength < text.length || text.any isControl then throw .invalid
  let p := parts text
  let (user, host, socket) := cutHost p.authority
  let user ← escaped isUserPart user
  let host ← orInvalid (Host.normal? host)
  let socket ← orInvalid (socket? p.scheme socket)
  let hasScheme := !p.scheme.isEmpty
  let hasAuthority := !user.isEmpty || !host.isEmpty || socket.isSome
  if !allowsPath hasScheme hasAuthority p.path then throw .invalid
  let path ← escaped isPathPart p.path
  let query ← escaped? isQueryPart p.query
  let fragment ← escaped? isFragmentPart p.fragment
  pure
    { scheme := p.scheme.map Char.toLower, user := user, host := host, socket := socket
      path := if hasScheme || hasAuthority then plainPath path else path
      query := query, fragment := fragment }

/-! ## Using addresses -/

/-- Whether an address says by itself where it leads. -/
def isAbsolute (a : Address) : Bool := !a.scheme.isEmpty && !a.host.isEmpty

/-- An address completed by a base: one that does not say by itself where it leads is a path below
the root of the base. -/
def resolve (base a : Address) : Address :=
  if a.isAbsolute then a
  else
    let path := '/' :: a.path.dropWhile (· == '/')
    { base with
      path := if base.isAbsolute then plainPath path else path
      query := a.query, fragment := none }

/-- The text of a host, between brackets if it is an address of groups, with its socket number. -/
def renderHost (a : Address) : Text :=
  let host : Text := if a.host.contains ':' then "[" ++ a.host ++ "]" else a.host
  host ++ (a.socket.map fun n => Text.ofString (":" ++ toString n)).getD []

/-- The user, the host and the socket number of an address. -/
def authority (a : Address) : Text :=
  Text.ofChars (if a.user.isEmpty then [] else a.user ++ ['@']) ++ a.renderHost

/-- The text of an address. -/
def render (a : Address) : Text :=
  let authority := a.authority
  let marked : Text := if authority.isEmpty then [] else "//" ++ authority
  Text.ofChars (if a.scheme.isEmpty then [] else a.scheme ++ [':']) ++ marked
    ++ Text.ofChars (a.path ++ (a.query.map ('?' :: ·)).getD []
      ++ (a.fragment.map ('#' :: ·)).getD [])

/-- Whether the parts of an address are short enough for an address to be put together from them. -/
def isComposable (a : Address) : Bool :=
  a.authority.length ≤ maxLength && a.path.length ≤ maxLength
    && (a.query.getD []).length ≤ maxLength

/-- The address that a text spells as seen from a base. A host outside ASCII cannot be reached. -/
def readFrom (base : Address) (text : Text) : Except ReadError Address := do
  let given ← read text
  let address := resolve base given
  if !given.isAbsolute && !address.isComposable then throw .invalid
  if address.host.all fun c => c.code < 0x80 then pure address else throw .notEncodable

/-- Whether an address can take over the fragment of another, which must be plain text. -/
def takesFragment (a : Address) (fragment : List Char) : Bool :=
  let plain := unescape fragment
  plain.isEmpty || (a.isComposable && !plain.any fun c => isControl c)

end Address

end EntitySearch.Url
