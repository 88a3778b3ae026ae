import EntitySearch.Query.Basic
/-!
# Search strategies

A query that names a known type is searched in that type alone; any other query is searched in all
types together.
-/

namespace EntitySearch

/-- Where a query is searched. -/
inductive Strategy where
  | unified
  | single (entityType : EntityType)
  deriving Repr, DecidableEq

namespace Strategy

/-- The name of a strategy. -/
def name : Strategy → String
  | unified => "unified"
  | single _ => "single"

/-- The type that is searched alone. -/
def type? : Strategy → Option EntityType
  | unified => none
  | single t => some t

/-- The strategy for a query. Without a type, with `all` or with an unknown type, every type is
searched. -/
def choose (q : Query) : Strategy :=
  match q.resolvedType with
  | none | some .all => unified
  | some t => single t

end Strategy

end EntitySearch
