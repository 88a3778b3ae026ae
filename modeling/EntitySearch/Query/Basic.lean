import EntitySearch.Entity.Basic
/-!
# Queries

A query holds the free terms of a search string, the entity type it names, and its filters.
-/

namespace EntitySearch

/-- A value that may be left out or be given as null. -/
inductive Given (α : Type) where
  | absent
  | null
  | value (a : α)
  deriving Repr, DecidableEq, Inhabited

namespace Given

variable {α : Type}

/-- Whether something was given, be it null. -/
def isGiven : Given α → Bool
  | absent => false
  | _ => true

/-- The value, if there is one. -/
def value? : Given α → Option α
  | value a => some a
  | _ => none

end Given

/-- Structured filters. A filter that was given restricts the search even if it is null. -/
structure Filters where
  author : Given Text := .absent
  kind : Given Int := .absent
  /-- Tags that an entity must carry; nothing if the filter was not given. -/
  hashtags : Option (List Text) := none
  minLikes : Given Int := .absent
  minLoops : Given Int := .absent
  since : Given Int := .absent
  til : Given Int := .absent
  /-- Filters with other names, which restrict nothing. -/
  others : Ledger Text Json := []
  deriving Repr, BEq, Inhabited

/-- Whether no filter was given. -/
def Filters.isEmpty (f : Filters) : Bool :=
  !(f.author.isGiven || f.kind.isGiven || f.hashtags.isSome || f.minLikes.isGiven
    || f.minLoops.isGiven || f.since.isGiven || f.til.isGiven || !f.others.isEmpty)

/-- The structured form of a search string. -/
structure Query where
  raw : Text := []
  terms : List Text := []
  /-- The type as it was written, be it unknown. -/
  entityType : Option Text := none
  filters : Filters := {}
  deriving Repr, Inhabited

namespace Query

/-- The entity type that the query names, if it is known. -/
def resolvedType (q : Query) : Option EntityType := q.entityType.bind EntityType.ofName?

/-- The tags that the query asks for. -/
def hashtags (q : Query) : List Text := q.filters.hashtags.getD []

end Query

/-- A filter value as JSON, under its name if it was given. -/
def Given.member {α : Type} (name : Text) (encode : α → Json) :
    Given α → List (Text × Json)
  | .absent => []
  | .null => [(name, .null)]
  | .value a => [(name, encode a)]

/-- The filters as a JSON object. -/
def Filters.toJson (f : Filters) : Json :=
  .obj (f.author.member "author" Json.text ++ f.kind.member "kind" Json.int
    ++ (f.hashtags.map fun tags => (("hashtags" : Text), Json.arr (tags.map Json.text))).toList
    ++ f.minLikes.member "min_likes" Json.int ++ f.minLoops.member "min_loops" Json.int
    ++ f.since.member "since" Json.int ++ f.til.member "until" Json.int ++ f.others)

end EntitySearch
