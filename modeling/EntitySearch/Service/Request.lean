import EntitySearch.Text.Uppercase
import EntitySearch.Url.Target
/-!
# Requests

A request is sent to an address with a method, a content type and a body. Only some texts make a
request: the address must be valid, the content type ASCII, and the body well formed.
-/

namespace EntitySearch

/-- Why a request gets no reply. -/
inductive ExchangeError where
  /-- The text of the address is no address. -/
  | address (cause : Url.Address.ReadError)
  /-- The content type or the body cannot be sent. -/
  | notEncodable
  /-- The name of the host is not that of a host. -/
  | hostName (cause : Url.Label.LabelError)
  /-- The service has no usual socket number for the scheme of its address. -/
  | unknownScheme
  /-- The reply leads to a place that is no address. -/
  | misdirected
  deriving Repr, DecidableEq

/-- A request. -/
structure Request where
  method : Text
  address : Url.Address
  /-- The name of the host in plain letters. -/
  hostName : Text
  contentType : Text := []
  body : List Char := []
  deriving Repr

namespace Request

/-- What comes of a step with a cause of failure, which is told as an exchange error. -/
def orThrow {ε β : Type} (f : ε → ExchangeError) : Except ε β → Except ExchangeError β
  | .ok x => pure x
  | .error e => throw (f e)

/-- The characters of a text, if they can be sent. -/
def sendable (text : Text) : Except ExchangeError (List Char) :=
  match text.chars? with
  | some chars => pure chars
  | none => throw .notEncodable

/-- The request that texts make; its address is seen from a base. -/
def ofTexts (base : Url.Address) (method address contentType body : Text) :
    Except ExchangeError Request := do
  let address ← orThrow .address (base.readFrom address)
  if !contentType.all (fun c : CodePoint => c.code < 0x80) then throw .notEncodable
  let body ← sendable body
  let hostName ← orThrow .hostName (Url.Host.decodeName address.host)
  pure ⟨Text.upper method, address, hostName, contentType, body⟩

/-- The path of a request in plain text. -/
def path (r : Request) : Text := (Url.Target.ofAddress r.address).path

end Request

end EntitySearch
