import EntitySearch.Search.Measurement
import EntitySearch.Search.Race
import EntitySearch.Search.Strategy
import EntitySearch.Search.TypeSearch
/-!
# Searching the index

A unified search looks in every type that has a share of the results: the searches of the types are
jobs that run together, each with its part of the limit. A search of a single type is one job. Jobs
that have not ended when the time limit has passed contribute nothing; the results of the others are
joined in the order of the types and ranked.
-/

namespace EntitySearch

open Number (ArithmeticError)

variable {α : Type} [LogScalar α]

/-- Why a search as a whole comes to no result. -/
inductive SearchError where
  | arithmetic (cause : ArithmeticError)
  | cancelled
  deriving Repr, DecidableEq

/-- What searching the index comes to: the outcome, when it is there, and what was called and
measured on the way. -/
structure IndexRun (α : Type) where
  outcome : Except SearchError (List (SearchResult α))
  time : Float
  calls : List StoreCall := []
  measurements : List Measurement := []

/-- The search in one type, with its part of the limit. -/
structure SubSearch (α : Type) where
  entityType : EntityType
  limit : Int
  search : TypeSearch α

/-- What is to be searched in the index. -/
structure IndexPlan (α : Type) where
  strategy : Strategy
  query : Query
  limit : Int
  searches : List (SubSearch α)

namespace IndexPlan

/-! ## Planning -/

/-- The search in one type. -/
def single (adjuster : Adjuster α) (store : IndexStore α) (t : EntityType) (q : Query)
    (limit : Int) : IndexPlan α :=
  ⟨.single t, q, limit, [⟨t, limit, TypeSearch.plan adjuster store t q limit⟩]⟩

/-- The part of a limit for each type, without types that get nothing. -/
def subLimits (α : Type) [LogScalar α] (limit : Int) :
    Except ArithmeticError (List (EntityType × Int)) := do
  let parts ← quotaPercents.mapM fun (t, percent) => do
    let part ← quotaLimit limit (Scalar.decimal percent 2 : α)
    pure (t, part)
  pure (parts.filter (fun e => 0 < e.2))

/-- The searches in the types that have a share of the limit; none if the limit is below one. -/
def unified (adjuster : Adjuster α) (store : IndexStore α) (q : Query) (limit : Int) :
    Except ArithmeticError (IndexPlan α) :=
  if limit ≤ 0 then .ok ⟨.unified, q, limit, []⟩
  else
    (subLimits α limit).map fun limits =>
      ⟨.unified, q, limit,
        limits.map fun (t, part) => ⟨t, part, TypeSearch.plan adjuster store t q part⟩⟩

/-- What is to be searched by a strategy. -/
def ofStrategy (adjuster : Adjuster α) (store : IndexStore α) (s : Strategy) (q : Query)
    (limit : Int) : Except ArithmeticError (IndexPlan α) :=
  match s with
  | .unified => unified adjuster store q limit
  | .single t => .ok (single adjuster store t q limit)

/-! ## Running -/

/-- The search in a type. -/
def search? (p : IndexPlan α) (t : EntityType) : Option (SubSearch α) :=
  p.searches.find? fun s => s.entityType = t

/-- Whether the search is in a single type. -/
def isSingle (p : IndexPlan α) : Bool := p.strategy.type?.isSome

/-- Whether the search in a type, when it ends, breaks off the search as a whole: it is cancelled,
and no other searches go on. -/
def breaksOff (p : IndexPlan α) (t : EntityType) : Bool :=
  match p.search? t with
  | some ⟨_, _, _, _, .cancelled⟩ => p.isSingle
  | _ => false

/-- Whether no search begins: a single one with a time limit that is not positive. -/
def isIdle (p : IndexPlan α) (timeout : Option Float) : Bool :=
  match p.isSingle, timeout with
  | true, some seconds => decide (seconds ≤ 0)
  | _, _ => false

/-- The searches as jobs, with a time limit. A single search has its place for sure, and begins at
once if it has no time limit. -/
def race (p : IndexPlan α) (bound : Option Nat) (timeout : Option Float) : RacePlan EntityType :=
  { jobs :=
      if p.isIdle timeout then [] else p.searches.map fun s => (s.entityType, s.search.duration)
    bound := if p.isSingle then none else bound
    direct := p.isSingle && timeout.isNone
    timeout := timeout
    breaksOff := p.breaksOff }

/-! ## What comes of it -/

/-- The searches that have ended, in the order of the types. -/
def ended (p : IndexPlan α) (fanout : Fanout EntityType) : List (SubSearch α) :=
  p.searches.filter fun s => fanout.hasEnded s.entityType

/-- The results of the searches that have ended, in the order of the types. -/
def collect (p : IndexPlan α) (fanout : Fanout EntityType) : List (SearchResult α) :=
  (p.ended fanout).flatMap fun s => s.search.results

/-- What has been found: the results of a single search as they are, those of several ranked. -/
def outcome (p : IndexPlan α) (fanout : Fanout EntityType) :
    Except SearchError (List (SearchResult α)) :=
  if (p.ended fanout).any fun s => p.breaksOff s.entityType then .error .cancelled
  else if p.isSingle then .ok (p.collect fanout)
  else .ok (SearchResult.rank p.limit (p.collect fanout))

/-- The calls that the store has received, in order. -/
def calls (p : IndexPlan α) (fanout : Fanout EntityType) : List StoreCall :=
  fanout.started.reverse.filterMap fun (time, t) =>
    (p.search? t).bind fun s => s.search.call? t p.query s.limit time

/-- The failure of a search, if it has failed or has not ended. -/
def failure? (fanout : Fanout EntityType) (s : SubSearch α) : Option Measurement :=
  if fanout.hasEnded s.entityType then
    match s.search.ending with
    | .failed => some (.failure s.entityType.name .error)
    | _ => none
  else some (.failure s.entityType.name .timeout)

/-- What comes of the searches when they are over at a moment. -/
def conclude (p : IndexPlan α) (fanout : Fanout EntityType) (time : Float) : IndexRun α :=
  ⟨p.outcome fanout, time, p.calls fanout, p.searches.filterMap (failure? fanout)⟩

/-- Searches the index alone, from a moment on. -/
def run (p : IndexPlan α) (bound : Option Nat) (timeout : Option Float) (now : Float) :
    IndexRun α :=
  let (race, time) := Race.run (p.race bound timeout) (none : Option (SourceSide Unit)) 0 now
  p.conclude race.fanout time

end IndexPlan

end EntitySearch
