import EntitySearch.Query.Lexical
import EntitySearch.Ranking.Order
import EntitySearch.Search.Adjust
/-!
# Searching one type

The search in one entity type compiles the query's terms into a lexical query, asks the index store,
adjusts the hits and orders them. A query without terms for the type, or with a kind that the type
does not have, finds nothing and does not reach the store; failures find nothing either.
-/

namespace EntitySearch

variable {α : Type} [LogScalar α]

/-- How the search in one type ends. -/
inductive TypeEnding (α : Type) where
  | found (results : List (SearchResult α))
  | failed
  | cancelled

/-- The search in one type: the call that the store receives, how long the search takes, and how it
ends. -/
structure TypeSearch (α : Type) where
  /-- The lexical query sent to the store; nothing if the store is not asked. -/
  compiled : Option Text
  duration : Float
  ending : TypeEnding α

namespace TypeSearch

/-- A search that does not reach the store. -/
def idle : TypeSearch α := ⟨none, 0, .found []⟩

/-- How a search goes on with the store's reply. -/
def conclude (adjuster : Adjuster α) (store : IndexStore α) (d : Descriptor) (q : Query)
    (limit : Int) : SearchReply α → TypeEnding α
  | .cancelled => .cancelled
  | .failed _ => .failed
  | .hits hits =>
    match adjuster.adjust store d hits with
    | .error _ => .failed
    | .ok results => .found (cut limit (d.order q results))

/-- The search in the type of a descriptor. -/
def inDescriptor (adjuster : Adjuster α) (store : IndexStore α) (d : Descriptor) (q : Query)
    (limit : Int) : TypeSearch α :=
  if !d.acceptsGiven q.filters.kind then idle
  else
    let compiled := Lexical.build (d.queryTerms q)
    if compiled.isEmpty then idle
    else
      ⟨some compiled, store.searchTime d,
        conclude adjuster store d q limit (store.search d compiled q.filters limit)⟩

/-- The search in one type; `all` and a limit below one find nothing. -/
def plan (adjuster : Adjuster α) (store : IndexStore α) (t : EntityType) (q : Query)
    (limit : Int) : TypeSearch α :=
  match Descriptor.of? t with
  | none => idle
  | some d => if limit ≤ 0 then idle else inDescriptor adjuster store d q limit

/-- The results of a search that has ended. -/
def results (s : TypeSearch α) : List (SearchResult α) :=
  match s.ending with
  | .found results => results
  | _ => []

/-- The record of the call that the store receives at a moment. -/
def call? (s : TypeSearch α) (t : EntityType) (q : Query) (limit : Int) (time : Float) :
    Option StoreCall :=
  s.compiled.map fun compiled => .search t compiled q.filters limit time

end TypeSearch

end EntitySearch
