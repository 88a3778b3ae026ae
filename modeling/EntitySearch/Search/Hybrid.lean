import EntitySearch.Query.Parser
import EntitySearch.Ranking.Fusion
import EntitySearch.Search.IndexPlan
import EntitySearch.Search.Secondary
import EntitySearch.Search.Source
/-!
# Hybrid search

A hybrid search asks the index and a secondary source at the same time, holds the secondary results
to the query and fuses the two lists. A source that fails or misses the deadline contributes
nothing.
-/

namespace EntitySearch

open Number (ArithmeticError)

/-- Limits and bounds of searching. -/
structure SearchLimits where
  defaultLimit : Int := 50
  maxLimit : Int := 500
  /-- How many types are searched at once; zero and less mean all of them. -/
  maxConcurrency : Int := 0
  /-- The time limit of a search that sets none itself, in seconds. -/
  timeout : Option Float := none
  deriving Repr

namespace SearchLimits

/-- The limit that a search uses: the one asked for or the usual one, at most the greatest allowed,
and never below zero. -/
def resolve (l : SearchLimits) (limit : Option Int) : Int :=
  max (min (limit.getD l.defaultLimit) l.maxLimit) 0

/-- The bound on searches at once, if there is one. -/
def bound (l : SearchLimits) : Option Nat :=
  if 0 < l.maxConcurrency then some l.maxConcurrency.toNat else none

end SearchLimits

/-- Everything that a search works with; the secondary source, if there is one, is of type `σ`. -/
structure Searcher (σ α : Type) where
  store : IndexStore α
  source : Option σ
  limits : SearchLimits
  fusion : RankFusion α
  adjuster : Adjuster α

/-- A search: its outcome, the source after it, when it ended, and what was called, sent and
measured. -/
structure SearchRun (σ α : Type) where
  outcome : Except SearchError (List (SearchResult α))
  source : Option σ
  time : Float
  calls : List StoreCall := []
  requests : List SourceRequest := []
  measurements : List Measurement := []

/-- What a search asks for besides the query. -/
structure SearchOptions where
  limit : Option Int := none
  semantic : Bool := false
  timeout : Option Float := none

namespace Searcher

variable {σ α : Type} [LogScalar α]

/-! ## The index side -/

/-- Searches the index alone by a strategy, from a moment on. -/
def searchIndex (x : Searcher σ α) (s : Strategy) (q : Query) (limit : Int)
    (timeout : Option Float) (now : Float) : IndexRun α :=
  match IndexPlan.ofStrategy x.adjuster x.store s q limit with
  | .error e => ⟨.error (.arithmetic e), now, [], []⟩
  | .ok plan => plan.run x.limits.bound timeout now

/-! ## The secondary side -/

/-- What searching the source sets out with. With a time limit that is not positive the source is
not asked. -/
def sourceSide [SemanticSource σ α] (source : σ) (s : Strategy) (q : Query) (limit : Int)
    (timeout : Option Float) : SourceSide (SourceRun σ α) :=
  let asked : SourceSide (SourceRun σ α) :=
    ⟨⟨source, .pending, []⟩, some (SemanticSource.search source q limit s.type?)⟩
  match timeout with
  | some seconds => if seconds ≤ 0 then { asked with next := none } else asked
  | none => asked

/-- The results of a run; nothing if it has failed or has not ended. -/
def found (run : SourceRun σ α) : List (SearchResult α) :=
  match run.outcome with
  | .returned results => results
  | _ => []

/-- The failure of a source, if it has failed or was given up. -/
def sourceFailure? (side : SourceSide (SourceRun σ α)) : Option Measurement :=
  match side.stage.outcome with
  | .returned _ => none
  | .failed => some (.failure "semantic" .error)
  | .pending => if side.next.isNone then some (.failure "semantic" .timeout) else none

/-! ## Both sides -/

/-- What is measured of a completed search. -/
def completed (s : Strategy) (results : List (SearchResult α)) : Measurement :=
  .search s.name 0 results.length

/-- Joins what the two sides have come to. -/
def join (x : Searcher σ α) (s : Strategy) (q : Query) (limit : Int) (index : IndexRun α)
    (side : SourceSide (SourceRun σ α)) : SearchRun σ α :=
  let second := side.stage
  let measured := index.measurements ++ (sourceFailure? side).toList
  match index.outcome with
  | .error e =>
    ⟨.error e, some second.source, index.time, index.calls, second.requests, measured⟩
  | .ok lexical =>
    let (kept, checks) := Secondary.filter x.store q s (found second) lexical
    let calls := index.calls ++ checks
    match x.fusion.fuse lexical kept limit with
    | .error e =>
      ⟨.error (.arithmetic e), some second.source, index.time, calls, second.requests, measured⟩
    | .ok results =>
      ⟨.ok results, some second.source, index.time, calls, second.requests,
        measured ++ [.fusion RankFusion.name, completed s results]⟩

/-- Searches index and source side by side, from a moment on. -/
def searchBoth [SemanticSource σ α] (x : Searcher σ α) (source : σ) (s : Strategy) (q : Query)
    (limit : Int) (timeout : Option Float) (now : Float) :
    IndexRun α × SourceSide (SourceRun σ α) :=
  let side := sourceSide source s q limit timeout
  let waits := SemanticSource.waits source
  match IndexPlan.ofStrategy x.adjuster x.store s q limit with
  | .error e =>
    let (race, time) :=
      Race.run ({ jobs := [], timeout := timeout, fails := true } : RacePlan EntityType) (some side)
        waits now
    (⟨.error (.arithmetic e), time, [], []⟩, race.source.getD side)
  | .ok plan =>
    let (race, time) := Race.run (plan.race x.limits.bound timeout) (some side) waits now
    (plan.conclude race.fanout time, race.source.getD side)

/-- Searches the index alone. -/
def lexicalOnly (x : Searcher σ α) (s : Strategy) (limit : Int) (index : IndexRun α) :
    SearchRun σ α :=
  match index.outcome with
  | .error e => ⟨.error e, x.source, index.time, index.calls, [], index.measurements⟩
  | .ok found =>
    let results := cut limit found
    ⟨.ok results, x.source, index.time, index.calls, [],
      index.measurements ++ [completed s results]⟩

/-- Searches a query from a moment on. With a secondary source, twice the limit is asked of each
side. -/
def search [SemanticSource σ α] (x : Searcher σ α) (q : Query) (options : SearchOptions)
    (now : Float) : SearchRun σ α :=
  let limit := x.limits.resolve options.limit
  let timeout := options.timeout.or x.limits.timeout
  let s := Strategy.choose q
  if limit = 0 then ⟨.ok [], x.source, now, [], [], []⟩
  else
    match (if options.semantic then x.source else none) with
    | none => x.lexicalOnly s limit (x.searchIndex s q limit timeout now)
    | some source =>
      let (index, side) := x.searchBoth source s q (limit * 2) timeout now
      x.join s q limit index side

/-! ## Records, health and closing -/

/-- The full records of results; nothing where there is none or the look-up fails. -/
def hydrate (x : Searcher σ α) (results : List (SearchResult α)) : List (Option Json) :=
  results.mapIdx fun position r =>
    match x.store.entity ⟨r.entityType, position, r.entityId⟩ with
    | .ok record => record
    | .error _ => none

/-- Whether the store is well; a failure counts as a no. -/
def healthy (x : Searcher σ α) : Bool :=
  match x.store.health with
  | .ok answer => answer
  | .error _ => false

/-- Closes store and source, and says what they record. -/
def cleanup [SemanticSource σ α] (x : Searcher σ α) : List StoreCall × List SourceRequest :=
  (match x.store.close with
    | .ok _ => [.close]
    | .error _ => [],
    match x.source with
    | some source => SemanticSource.close source
    | none => [])

end Searcher

end EntitySearch
