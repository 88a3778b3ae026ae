import EntitySearch.Json.Value
/-!
# Entities

The types of entities that can be searched, the hits and results that refer to entities, and the
counters that are kept about them.
-/

namespace EntitySearch

/-- The types of entities; `all` stands for every type. -/
inductive EntityType where
  | user | video | list | hashtag | note | article | community | all
  deriving Repr, DecidableEq, Inhabited

namespace EntityType

/-- The name of a type, which clients write after `type:`. -/
def name : EntityType → String
  | user => "user"
  | video => "video"
  | list => "list"
  | hashtag => "hashtag"
  | note => "note"
  | article => "article"
  | community => "community"
  | all => "all"

/-- Every type. -/
def every : List EntityType := [user, video, list, hashtag, note, article, community, all]

/-- The type with a name. -/
def ofName? (name : Text) : Option EntityType := every.find? (fun t => t.name == name)

end EntityType

/-- A hit of one index: which entity matched, how well, and where. -/
structure Hit (α : Type) where
  entityId : Text
  score : α
  snippet : Option Text
  matchFields : List Text
  createdAt : Int
  deriving Repr

/-- A ranked reference to an entity. The snippet and the matched fields are kept as they were
given: texts when they come from the index, any value when another service supplies them. -/
structure SearchResult (α : Type) where
  entityType : EntityType
  entityId : Text
  score : α
  snippet : Json
  matchFields : List Atom
  createdAt : Int
  /-- The combined score, once the result has been through fusion. -/
  fusionScore : Option α
  deriving Repr

/-- What identifies the entity that a result refers to. -/
def SearchResult.key {α : Type} (r : SearchResult α) : EntityType × Text :=
  (r.entityType, r.entityId)

/-- Interaction counters of an entity; a counter may be unknown. -/
structure Signals where
  likes : Option Int := some 0
  loops : Option Int := some 0
  deriving Repr, DecidableEq

/-- How often a hashtag was used, and when first and last. -/
structure TagUsage where
  tag : Text
  usageCount : Int
  firstSeen : Int
  lastSeen : Int
  deriving Repr, DecidableEq

end EntitySearch
