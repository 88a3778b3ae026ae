import EntitySearch.Json.Writer
import EntitySearch.Search.AnySource
import EntitySearch.Search.Hybrid
import EntitySearch.Service.Exposition
import EntitySearch.Service.Place
import EntitySearch.Service.SearchRequest
/-!
# The search service

The service answers requests: it searches, shows how a search string is read, and reports on itself.
`App.answer` answers one request; the state that a request leaves behind is the time, what the
secondary source has become, and what has been counted. Every answered request is counted, after its
answer has been made.
-/

namespace EntitySearch

/-! ## Replies -/

/-- What the service replies. -/
inductive Reply where
  /-- A document with a status. -/
  | document (status : Int) (body : Json)
  /-- The request has faults. -/
  | invalid (faults : List FaultAt)
  /-- The search came to no result. -/
  | searchFailed
  /-- The service itself failed. -/
  | broken
  /-- The page is found at another place. -/
  | moved (location : List Char)
  /-- What has been counted, if anything is counted. -/
  | counts (metrics : Option Metrics)

namespace Reply

/-- The status of a reply. -/
def status : Reply → Int
  | document status _ => status
  | invalid _ => 422
  | searchFailed => 500
  | broken => 500
  | moved _ => 307
  | counts _ => 200

/-- What a reply says of a search that came to no result. -/
def searchFailedDetail : String := "Search failed"

/-- What a reply says when the service itself failed. -/
def brokenError : String := "Internal server error"

/-- A document that only says what is wrong. -/
def detail (status : Int) (text : Text) : Reply := document status (.obj [("detail", .text text)])

/-- A document with null in place of numbers that are not finite, if it can be sent. -/
def shown (body : Json) : Reply :=
  if body.finitePart.isSendable then document 200 body.finitePart else broken

/-- The reply that shows what has been counted, if it can be published. -/
def counted (metrics : Option Metrics) : Reply :=
  if metrics.all Exposition.isPublishable then counts metrics else broken

/-- The reply to a request with faults, if the values at fault can be quoted. -/
def refused (refusals : List SearchRequest.Refusal) : Reply :=
  if refusals.all (fun r => r.quoted.isSendable) then invalid (refusals.map (·.report)) else broken

end Reply

/-! ## Pages -/

/-- The pages that describe the service. -/
inductive ManualPart where
  | schema | docs | signIn | reference
  deriving Repr, DecidableEq

/-- The pages of the service. -/
inductive Page where
  | root | health | metrics | search | parse
  /-- A page that describes the service. -/
  | manual (part : ManualPart)
  deriving Repr, DecidableEq

namespace Page

/-- The path of a page. -/
def path : Page → String
  | root => "/"
  | health => "/health"
  | metrics => "/metrics"
  | search => "/api/v1/search"
  | parse => "/api/v1/parse"
  | manual .schema => "/openapi.json"
  | manual .docs => "/docs"
  | manual .signIn => "/docs/oauth2-redirect"
  | manual .reference => "/redoc"

/-- The methods by which a page is asked for. -/
def methods : Page → List String
  | search => ["POST"]
  | manual _ => ["GET", "HEAD"]
  | _ => ["GET"]

/-- Every page. -/
def every : List Page :=
  [manual .schema, manual .docs, manual .signIn, manual .reference, search, parse, health, metrics,
    root]

/-- The page at a path. A line feed behind the path of a page makes no difference. -/
def ofPath? (path : Text) : Option Page :=
  every.find? fun p => (p.path : Text) == path || (p.path ++ "\n" : Text) == path

/-- The path without slashes at its end, if a page is there. -/
def slashed? (path : Text) : Option Text :=
  let trimmed := Semantic.Client.trimSlashes path
  if trimmed.length < path.length && (ofPath? trimmed).isSome then some trimmed else none

end Page

/-- The name under which the service reports. -/
def serviceName : String := "search-service"

/-- What the service says of itself. -/
def selfDescription : Json :=
  .obj [("service", .text serviceName), ("version", .text "0.1.0"), ("status", .text "running"),
    ("endpoints", .obj [("health", .text Page.health.path), ("metrics", .text Page.metrics.path),
      ("search", .text Page.search.path), ("parse", .text Page.parse.path)])]

/-- How a search string is read. -/
def parseReport (raw : Text) : Json :=
  let q := Query.parse raw
  .obj [("raw", .text raw), ("terms", .arr (q.terms.map Json.text)),
    ("entity_type", (q.entityType.map Json.text).getD .null), ("filters", q.filters.toJson),
    ("lexical_query", .text (Lexical.build q.terms)),
    ("strategy", .text (Strategy.choose q).name)]

/-! ## Results -/

/-- Atoms that are all texts. -/
def allTexts? : List Atom → Option (List Text)
  | [] => some []
  | .text s :: rest => (allTexts? rest).map (s :: ·)
  | _ :: _ => none

/-- Whether a value is a text or null. -/
def isTextOrNull : Json → Bool
  | .atom (.text _) => true
  | .atom .null => true
  | _ => false

/-- A record as it is shown, which must be an object or null. -/
def shownRecord? : Option Json → Option Json
  | none => some .null
  | some (.atom .null) => some .null
  | some (.obj members) => some (.obj members)
  | some _ => none

/-- A result as it is shown. A result that does not have the form of results is not shown. -/
def shownResult? (r : SearchResult Float) (record : Option Json) : Option Json := do
  let fields ← allTexts? (← Atom.sorted? r.matchFields)
  let shown ← shownRecord? record
  if isTextOrNull r.snippet then
    pure (.obj [("entity_type", .text r.entityType.name), ("entity_id", .text r.entityId),
      ("score", .float r.score), ("fusion_score", (r.fusionScore.map Json.float).getD .null),
      ("snippet", r.snippet), ("match_fields", .arr (fields.map Json.text)),
      ("created_at", .int r.createdAt), ("entity", shown)])
  else none

/-- The report of a search, if every result can be shown. -/
def searchReport? (r : SearchRequest) (q : Query) (results : List (SearchResult Float))
    (records : List (Option Json)) : Option Json := do
  let shown ← (results.zip records).mapM fun (result, record) => shownResult? result record
  pure (.obj [("results", .arr shown), ("total", .int shown.length), ("query", .text r.query),
    ("strategy", .text (Strategy.choose q).name), ("semantic", .bool r.semantic)])

/-! ## The service -/

/-- The service as it runs: what it searches with and what it counts with, either of which may be
missing, and the time. -/
structure App where
  searcher : Option (Searcher AnySource Float) := none
  metrics : Option Metrics := none
  time : Float := 0

namespace App

/-- Whether the store can be searched. -/
def healthy (app : App) : Bool :=
  match app.searcher with
  | some x => x.healthy
  | none => false

/-- The reply on the state of the service. -/
def healthReply (app : App) : Reply :=
  let report := fun (status : Text) =>
    Json.obj [("status", .text status), ("service", .text serviceName)]
  if app.healthy then .document 200 (report "healthy") else .document 503 (report "unhealthy")

/-- Time limits in seconds. -/
def secondsOf : Option Int → Except Number.ArithmeticError (Option Float)
  | none => pure none
  | some ms => do pure (some ((← Number.floatOfInt ms) / 1000))

/-- The reply to a search that has run. -/
def searchReply (x : Searcher AnySource Float) (r : SearchRequest) (q : Query)
    (outcome : Except SearchError (List (SearchResult Float))) : Reply :=
  match outcome with
  | .error .cancelled => .broken
  | .error (.arithmetic _) => .searchFailed
  | .ok results =>
    let records := if r.hydrate then x.hydrate results else results.map fun _ => none
    match searchReport? r q results records with
    | none => .searchFailed
    | some report => .shown report

/-- Runs a search. -/
def search (app : App) (x : Searcher AnySource Float) (r : SearchRequest) : App × Reply :=
  let q := Query.parse r.query
  match secondsOf r.timeoutMs with
  | .error _ => (app, .searchFailed)
  | .ok timeout =>
    let run := x.search q ⟨r.limit, r.semantic, timeout⟩ app.time
    ({ app with
        searcher := some { x with source := run.source }
        metrics := app.metrics.map fun m => m.recordAll run.measurements
        time := run.time },
      searchReply x r q run.outcome)

/-- Answers a search request. A body that does not follow the grammar is refused before anything
else. -/
def searchPage (app : App) (request : Request) : App × Reply :=
  match RequestBody.read request.contentType request.body with
  | .malformed => (app, .invalid [⟨["body"], .notJson⟩])
  | .excessive => (app, .detail 400 "There was an error parsing the body")
  | body =>
    match app.searcher with
    | none => (app, .broken)
    | some x =>
      match SearchRequest.ofBody body with
      | .error refusals => (app, .refused refusals)
      | .ok r => app.search x r

/-- Answers a request for a page. -/
def page (app : App) (p : Page) (request : Request) : App × Reply :=
  match p with
  | .root => (app, .document 200 selfDescription)
  | .health => (app, app.healthReply)
  | .metrics => (app, .counted app.metrics)
  | .parse =>
    (app, .document 200 (parseReport (((Url.Target.ofAddress request.address).value? "q").getD [])))
  | .search => app.searchPage request
  | .manual _ => (app, .document 200 .null)

/-- Finds the page of a request and answers it. -/
def dispatch (app : App) (request : Request) (place : Option Text) : App × Reply :=
  match Page.ofPath? request.path with
  | some p =>
    if request.method ∈ p.methods.map Text.ofString then app.page p request
    else (app, .detail 405 "Method Not Allowed")
  | none =>
    match Page.slashed? request.path with
    | some path => (app, .moved (Place.location (place.getD []) path request.address.query))
    | none => (app, .detail 404 "Not Found")

/-- Whether the client can follow a reply. A reply that leads to another place is followed as far as
the address of that place, which takes over the fragment of the request's. -/
def checkReply (request : Request) : Reply → Except ExchangeError Unit
  | .moved location =>
    match Url.Address.read (.ofChars location) with
    | .error _ => throw .misdirected
    | .ok target =>
      if target.takesFragment (request.address.fragment.getD []) then pure ()
      else throw (.address .invalid)
  | _ => pure ()

/-- Answers a request and counts it, unless the service cannot tell its own place. -/
def answer (app : App) (request : Request) : App × Except ExchangeError Reply :=
  let place := Place.ofRequest? request
  let (after, reply) := app.dispatch request place
  if place.isNone then (after, .error .unknownScheme)
  else
    let counted : Measurement :=
      .request request.method (Place.countedPath request.path) reply.status 0
    ({ after with metrics := after.metrics.map fun m => m.record counted },
      (checkReply request reply).map fun _ => reply)

/-- Answers requests one after the other; those that are not sent get no reply. -/
def answerAll (app : App) :
    List (Except ExchangeError Request) → List (Except ExchangeError Reply)
  | [] => []
  | .error e :: rest => .error e :: app.answerAll rest
  | .ok request :: rest =>
    let (after, reply) := app.answer request
    reply :: after.answerAll rest

end App

end EntitySearch
