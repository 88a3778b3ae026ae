import EntitySearch.Search.Source
import EntitySearch.Ranking.Order
import EntitySearch.Semantic.Breaker
import EntitySearch.Semantic.Response
import EntitySearch.Json.Writer
import EntitySearch.Url.Address
/-!
# The client of the semantic service

A search sends a request to the service. A request that fails is repeated after a delay that doubles
with each attempt up to a greatest one, as long as attempts are left and the circuit breaker lets
the next request through. The service is seen through its answers, which come one after the other;
the last one repeats. A request that cannot be sent, because its address is invalid or its content
is not sendable, fails at once.
-/

namespace EntitySearch.Semantic

/-- What the service does with a request. -/
structure ServiceAnswer where
  status : Int := 200
  body : Text := []
  /-- How many seconds pass before the answer. -/
  delay : Float := 0
  /-- Whether no connection comes about. -/
  unreachable : Bool := false
  deriving Repr, Inhabited

/-- The results of an answer. -/
def ServiceAnswer.results (a : ServiceAnswer) : Except AnswerError (List (SearchResult Float)) :=
  if a.unreachable then throw .unreachable
  else if a.status ≠ 200 then throw (.status a.status)
  else readBody a.body

/-- How requests are repeated: how often in all, and the first and the greatest delay. -/
structure RetryPolicy where
  attempts : Int := 3
  baseDelay : Float := 0.25
  maxDelay : Float := 2
  deriving Repr

/-- At least one request is always made. -/
def RetryPolicy.count (p : RetryPolicy) : Nat := (max p.attempts 1).toNat

/-- The delay after a failed attempt, counted from one: the base delay doubled with every further
attempt, but no more than the greatest one. Nothing if the factor is beyond all doubles. -/
def RetryPolicy.delay? (p : RetryPolicy) (attempt : Nat) : Option Float :=
  match Number.floatOfInt (Nat.pow 2 (attempt - 1) : Nat) with
  | .error _ => none
  | .ok factor =>
    let grown := p.baseDelay * factor
    some (if p.maxDelay < grown then p.maxDelay else grown)

/-- The breaker that a client has if it is given none. -/
def usualBreaker : Breaker Float := { name := "semantic_source", threshold := 5, recovery := 30 }

/-- A client: the address of the service, its retry policy, its breaker and the answers of the
service that are still to come. -/
structure Client where
  baseUrl : Text
  policy : RetryPolicy := {}
  breaker : Breaker Float := usualBreaker
  answers : List ServiceAnswer := []
  deriving Repr

namespace Client

/-- An address without slashes at its end. -/
def trimSlashes (url : Text) : Text := (url.reverse.dropWhile fun c : CodePoint => c == '/').reverse

/-- A client for the service at an address. -/
def new (baseUrl : Text) (policy : RetryPolicy) (breaker : Breaker Float)
    (answers : List ServiceAnswer) : Client :=
  ⟨trimSlashes baseUrl, policy, breaker, answers⟩

/-- Where requests are sent. -/
def url (c : Client) : Text := c.baseUrl ++ "/api/v1/search"

/-- What a request asks for. -/
def payload (q : Query) (limit : Int) (t : Option EntityType) : Json :=
  .obj [("query", .text (Text.join " " q.terms)), ("limit", .int limit),
    ("entity_type", (t.map fun t => Json.text t.name).getD .null), ("filters", q.filters.toJson)]

/-- The next answer of the service. -/
def answer (c : Client) : ServiceAnswer := c.answers.headD {}

/-- The answers after the next one; the last one repeats. -/
def later (c : Client) : List ServiceAnswer :=
  match c.answers with
  | _ :: next :: rest => next :: rest
  | answers => answers

/-- What becomes of one request: the client once it is sent, what has been sent, how many seconds
pass before the answer, and the results or why there are none. -/
structure Exchange where
  client : Client
  requests : List SourceRequest
  delay : Float
  outcome : Except AnswerError (List (SearchResult Float))

/-- Sends one request at a moment. An address that does not say where it leads still takes the
service's next answer, but in vain. -/
def exchange (c : Client) (payload : Json) (now : Float) : Exchange :=
  match Url.Address.readFrom {} c.url, payload.isSendable with
  | .ok target, true =>
    ⟨{ c with answers := c.later }, [.posted target.render payload now], c.answer.delay,
      if target.isAbsolute then c.answer.results else .error .relativeAddress⟩
  | _, _ => ⟨c, [], 0, .error .unsendable⟩

/-- How a search goes on after a request that has failed, if attempts are left: it waits and tries
again. -/
def retry (again : Client → List SourceRequest → Float → Activity (SourceRun Client Float))
    (attempt left : Nat) (c : Client) (sent : List SourceRequest) :
    Activity (SourceRun Client Float) :=
  match left, c.policy.delay? attempt with
  | _ + 1, some delay => .waits ⟨c, .pending, sent⟩ delay (again c sent)
  | _, _ => .ended ⟨c, .returned [], sent⟩

/-- How a search goes on when a request has been answered. -/
def conclude (again : Client → List SourceRequest → Float → Activity (SourceRun Client Float))
    (limit : Int) (attempt left : Nat) (c : Client) (sent : List SourceRequest)
    (outcome : Except AnswerError (List (SearchResult Float))) (now : Float) :
    Activity (SourceRun Client Float) :=
  match outcome with
  | .ok results =>
    .ended ⟨{ c with breaker := c.breaker.succeed }, .returned (cut limit results), sent⟩
  | .error _ => retry again attempt left { c with breaker := c.breaker.fail now } sent

/-- Sends requests from an attempt on, with `left` attempts after it, after others that have been
sent. -/
def attempts (payload : Json) (limit : Int) (attempt : Nat) : (left : Nat) → Client →
    List SourceRequest → Float → Activity (SourceRun Client Float)
  | left, c, sent, now =>
    match c.breaker.accept now with
    | .error _ => .ended ⟨c, .returned [], sent⟩
    | .ok admitted =>
      let e : Exchange := Client.exchange { c with breaker := admitted } payload now
      let again := match left with
        | 0 => fun c sent _ => .ended ⟨c, .returned [], sent⟩
        | left + 1 => attempts payload limit (attempt + 1) left
      let answered := conclude again limit attempt left e.client (sent ++ e.requests) e.outcome
      if e.delay == 0 then answered now
      else .waits ⟨e.client, .pending, sent ++ e.requests⟩ e.delay answered

/-- Searches the service. A query without text or a limit below one needs no request, and every
failure yields no results. -/
def search (c : Client) (q : Query) (limit : Int) (t : Option EntityType) (now : Float) :
    Activity (SourceRun Client Float) :=
  if (Text.join " " q.terms).isEmpty || decide (limit ≤ 0) then .ended ⟨c, .returned [], []⟩
  else attempts (payload q limit t) limit 1 (c.policy.count - 1) c [] now

end Client

instance : SemanticSource Client Float where
  search := Client.search
  waits c := 2 * c.policy.count
  close _ := []

end EntitySearch.Semantic
