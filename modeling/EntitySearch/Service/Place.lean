import EntitySearch.Service.Request
/-!
# The place of the service

The service takes its own place from the request: the scheme, and the host with its socket number as
the request spells them, or else the host that was reached, between brackets if it is an address of
groups, with its socket number unless that goes without saying. Without a number there is then no
usable place, but the service does not notice.
-/

namespace EntitySearch.Place

/-- What follows the digits at the front of a text behind a colon. -/
def isSocketPart (text : Text) : Bool :=
  match text with
  | [] => true
  | .char ':' :: digits => digits.all fun c => c.is Char.isDigit
  | _ => false

/-- Whether a text consists of characters of names and escapes. -/
def isName : Text → Bool
  | [] => true
  | .char '%' :: .char a :: .char b :: rest =>
    (Text.hexDigit? a).isSome && (Text.hexDigit? b).isSome && isName rest
  | .char c :: rest =>
    (Url.isUnreserved c || "!$&'()*+,;=".toList.contains c) && isName rest
  | _ => false

/-- Whether a text spells a host with or without a socket number. -/
def isPlain (text : Text) : Bool :=
  match text with
  | .char '[' :: rest =>
    let (groups, rest) := Text.cutAt (fun c : CodePoint => c == ']') rest
    !groups.isEmpty && rest.any isSocketPart
      && groups.all fun c => c.is fun c => (Text.hexDigit? c).isSome || c == ':' || c == '.'
  | _ =>
    let name := text.takeWhile fun c : CodePoint => c != ':'
    isName name && isSocketPart (text.drop name.length)

/-- The usual socket numbers of the schemes that the service knows. -/
def usualSockets : List (String × Int) := [("http", 80), ("https", 443), ("ws", 80), ("wss", 443)]

/-- The host that a request has reached, with its socket number; nothing if the service does not
know the scheme. -/
def reached? (r : Request) : Option Text := do
  let usual ← usualSockets.lookup (String.ofList r.address.scheme)
  let host : Text := if r.hostName.contains ':' then "[" ++ r.hostName ++ "]" else r.hostName
  match r.address.socket with
  | some n => pure (if n = usual then host else host ++ Text.ofString (":" ++ toString n))
  | none => pure (host ++ ":None")

/-- The place of the service as a request shows it; nothing if it cannot be told. -/
def ofRequest? (r : Request) : Option Text := do
  let host := r.address.renderHost
  let host ← if isPlain host then some host else reached? r
  pure (Text.ofChars (r.address.scheme ++ [':', '/', '/']) ++ host)

/-- The characters of a location that are not escaped. -/
def isLocationPart (c : Char) : Bool :=
  Url.isUnreserved c || ":/%#?=@[]!$&'()*+,;".toList.contains c

/-- Where a path is found at a place, with the query of a request. -/
def location (place path : Text) (query : Option (List Char)) : List Char :=
  let query := match query with
    | none | some [] => []
    | some query => '?' :: query
  Url.escape isLocationPart (((place ++ path).filterMap CodePoint.char?) ++ query)

/-- The path under which a request is counted: marks that would begin another part of an address are
escaped, line ends and tabs left out. -/
def countedPath (path : Text) : Text :=
  path.flatMap fun c : CodePoint =>
    if c == '?' then ("%3F" : Text) else if c == '#' then "%23" else if c == '\\' then "%5C"
    else if c == '\t' || c == '\n' || c == '\r' then [] else [c]

end EntitySearch.Place
