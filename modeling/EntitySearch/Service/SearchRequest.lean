import EntitySearch.Json.Document
import EntitySearch.Text.Lowercase
import EntitySearch.Service.Validation
/-!
# Search requests

The body of a search request is a JSON object with the search string and the options of the search.
`SearchRequest.ofBody` reports all fields with faults at once, in the order of the fields; each
report quotes the value that is at fault, or the whole body where a value is missing.
-/

namespace EntitySearch

/-- What a client asks for in the body of a search request. -/
structure SearchRequest where
  query : Text
  limit : Option Int := none
  semantic : Bool := false
  /-- The time limit in milliseconds. -/
  timeoutMs : Option Int := none
  /-- Whether full records are wanted with the results. -/
  hydrate : Bool := false
  deriving Repr, DecidableEq

/-! ## Bodies -/

/-- What the body of a request turns out to be. -/
inductive RequestBody where
  | missing
  /-- The body is said to be JSON but does not follow the grammar. -/
  | malformed
  /-- The body is no text, or follows the grammar but is beyond what is read. -/
  | excessive
  /-- The body is not said to be JSON. -/
  | foreign (text : Text)
  | json (value : Json)

namespace RequestBody

/-- Whether a content type is that of JSON. -/
def isJsonType (contentType : Text) : Bool :=
  let type := Text.lower (Text.strip (contentType.takeWhile fun c : CodePoint => c != ';'))
  match Text.splitWhere (fun c : CodePoint => c == '/') type with
  | [main, sub] => main == "application" && (sub == "json" || ("+json" : Text).isSuffixOf sub)
  | _ => false

/-- How deep the values of a body may be nested. -/
def maxNesting : Nat := 970

/-- The body that characters of a content type stand for. -/
def read (contentType : Text) (body : List Char) : RequestBody :=
  if body.isEmpty then missing
  else if !isJsonType contentType then foreign (.ofChars body)
  else
    match Json.parseDocument maxNesting body with
    | .ok value => json value
    | .error .malformed => malformed
    | .error _ => excessive

end RequestBody

/-! ## Fields -/

namespace SearchRequest

/-- A fault of a request with the value that is quoted in its report. -/
structure Refusal where
  report : FaultAt
  quoted : Json

/-- A field of the body; without one, the value that stands in for it. -/
def field {β : Type} (body : Json) (name : Text) (standIn : Except Fault β)
    (convert : Json → Except Fault β) : Except Refusal β :=
  let read := match body.get? name with
    | none => standIn
    | some value => convert value
  match read with
  | .ok x => pure x
  | .error fault => throw ⟨⟨["body", name], fault⟩, (body.get? name).getD body⟩

/-- The fault of a field, if it has one. -/
def faultOf {β : Type} : Except Refusal β → List Refusal
  | .ok _ => []
  | .error fault => [fault]

/-- A limit: a whole number that is not negative, or null. -/
def limitOf : Json → Except Fault (Option Int) :=
  Validate.orNull fun value => do Validate.atLeast 0 (← Validate.whole value)

/-- A time limit: a positive whole number, or null. -/
def timeoutOf : Json → Except Fault (Option Int) :=
  Validate.orNull fun value => do Validate.above 0 (← Validate.whole value)

/-- The request that a JSON value stands for. -/
def ofJson (body : Json) : Except (List Refusal) SearchRequest :=
  match body with
  | .obj _ =>
    let query := field body "query" (.error .missing) Validate.text
    let limit := field body "limit" (.ok none) limitOf
    let semantic := field body "semantic" (.ok false) Validate.truth
    let timeoutMs := field body "timeout_ms" (.ok none) timeoutOf
    let hydrate := field body "hydrate" (.ok false) Validate.truth
    match query, limit, semantic, timeoutMs, hydrate with
    | .ok query, .ok limit, .ok semantic, .ok timeoutMs, .ok hydrate =>
      pure ⟨query, limit, semantic, timeoutMs, hydrate⟩
    | _, _, _, _, _ =>
      throw (faultOf query ++ faultOf limit ++ faultOf semantic ++ faultOf timeoutMs
        ++ faultOf hydrate)
  | _ => throw [⟨⟨["body"], .notObject⟩, body⟩]

/-- The request that a body stands for. A body without JSON is no object, and a missing one is
reported as missing. -/
def ofBody : RequestBody → Except (List Refusal) SearchRequest
  | .missing => throw [⟨⟨["body"], .missing⟩, .null⟩]
  | .malformed => throw [⟨⟨["body"], .notJson⟩, .obj []⟩]
  | .foreign text => throw [⟨⟨["body"], .notObject⟩, .text text⟩]
  | .excessive => throw [⟨⟨["body"], .notObject⟩, .null⟩]
  | .json value => ofJson value

end SearchRequest

end EntitySearch
