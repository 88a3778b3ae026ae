import EntitySearch.Index.Store
import EntitySearch.Search.Strategy
/-!
# Holding secondary results to the query

Results of a secondary source must be of the type that the query names and pass its filters. A
result that the index has returned as well has passed them; the others are checked against the
index, and what cannot be confirmed is dropped.
-/

namespace EntitySearch.Secondary

variable {α : Type}

/-- The results of the type that a strategy is restricted to. -/
def ofType (s : Strategy) (results : List (SearchResult α)) : List (SearchResult α) :=
  match s.type? with
  | none => results
  | some t => results.filter (fun r => r.entityType = t)

/-- The results that are not among confirmed ones. -/
def unconfirmed (confirmed : List (EntityType × Text)) (results : List (SearchResult α)) :
    List (SearchResult α) :=
  results.filter (fun r => !confirmed.contains r.key)

/-- The types of results with the ids of each, in the order in which they first occur. -/
def grouped (results : List (SearchResult α)) : List (EntityType × List Text) :=
  (results.map SearchResult.entityType).eraseDups.map fun t =>
    (t, (results.filter (fun r => r.entityType = t)).map SearchResult.entityId)

/-- The descriptor of a type whose entities can pass the filters at all. -/
def checkable? (q : Query) (t : EntityType) : Option Descriptor :=
  (Descriptor.of? t).filter (fun d => d.acceptsGiven q.filters.kind)

/-- The entities of a type that the index confirms. -/
def confirm (store : IndexStore α) (q : Query) (group : EntityType × List Text) :
    List (EntityType × Text) :=
  match checkable? q group.1 with
  | none => []
  | some d =>
    match store.filterMatching d group.2 q.filters with
    | .error _ => []
    | .ok ids => ids.map fun id => (group.1, id)

/-- The call that checking a type makes. -/
def call? (q : Query) (group : EntityType × List Text) : Option StoreCall :=
  (checkable? q group.1).map fun _ => .filter group.1 group.2

/-- The secondary results that hold to the query, and the calls that it took to know. -/
def filter (store : IndexStore α) (q : Query) (s : Strategy)
    (results lexical : List (SearchResult α)) : List (SearchResult α) × List StoreCall :=
  let candidates := ofType s results
  if q.filters.isEmpty || candidates.isEmpty then (candidates, [])
  else
    let returned := lexical.map SearchResult.key
    let groups := grouped (unconfirmed returned candidates)
    let confirmed := returned ++ groups.flatMap (confirm store q)
    (candidates.filter (fun r => confirmed.contains r.key), groups.filterMap (call? q))

end EntitySearch.Secondary
