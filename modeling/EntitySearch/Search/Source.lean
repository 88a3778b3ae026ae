import EntitySearch.Query.Basic
import EntitySearch.Schedule.Activity
/-!
# Secondary sources

A secondary source answers a query with ranked results of its own. It is asked at a moment and may
be given up before it has answered; a `SourceRun` is how far it has come.
-/

namespace EntitySearch

/-- What a source has sent or received, as a record of its own kind. -/
inductive SourceRequest where
  /-- A request over the network. -/
  | posted (url : Text) (payload : Json) (time : Float)
  /-- A search in a source that is asked directly. -/
  | asked (terms : List Text) (limit : Int) (entityType : Option EntityType)
  /-- The source was closed. -/
  | closed

/-- How far a search in a source has come. -/
inductive SourceOutcome (α : Type) where
  | returned (results : List (SearchResult α))
  | failed
  /-- It has not ended. -/
  | pending

/-- A search in a source: the source as the search has left it so far, how far it has come, and what
was sent. -/
structure SourceRun (σ α : Type) where
  source : σ
  outcome : SourceOutcome α
  requests : List SourceRequest

/-- A source whose state is of type `σ`. -/
class SemanticSource (σ : Type) (α : outParam Type) where
  /-- Searches, from a moment on. -/
  search : σ → Query → (limit : Int) → Option EntityType → (now : Float) →
    Activity (SourceRun σ α)
  /-- How often a search waits at most. -/
  waits : σ → Nat
  /-- What closing the source records. -/
  close : σ → List SourceRequest

end EntitySearch
