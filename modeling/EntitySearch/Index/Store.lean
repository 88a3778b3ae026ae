import EntitySearch.Entity.Descriptor
/-!
# Index stores

An index store answers lexical queries per entity type and looks up what else is kept about an
entity. The search layer sees a store as an `IndexStore`: what each call would answer while one
request is served, and how long a search takes.
-/

namespace EntitySearch

/-- Why an index store fails. -/
inductive StoreError where
  /-- No index has this name. -/
  | unknownIndex (name : Text)
  /-- No connection to the database can be opened. -/
  | connection (cause : Text)
  /-- The database rejects or breaks off a query. -/
  | query (cause : Text)
  /-- A filter is compared with a missing counter, or a null filter with a counter. -/
  | incomparable
  /-- A row lacks a column. -/
  | missingColumn (name : Text)
  /-- Rows or columns are of a wrong type. -/
  | wrongType
  /-- A row does not consist of names with values. -/
  | malformedRow
  /-- A text in a column spells no number. -/
  | notANumber
  /-- A number in a column is too large. -/
  | tooLarge
  /-- A stored record is no JSON. -/
  | malformedRecord
  /-- A stored record is nested too deeply. -/
  | nestedTooDeep
  /-- The store does not answer. -/
  | unavailable
  deriving Repr, DecidableEq

/-- The report of an error that is the store's own. -/
def StoreError.message? : StoreError → Option Text
  | .unknownIndex name => some ("Unknown namespace: " ++ name)
  | .connection cause => some ("Failed to create connection pool: " ++ cause)
  | .query cause => some ("Query failed: " ++ cause)
  | _ => none

/-- How a search in one index ends. -/
inductive SearchReply (α : Type) where
  | hits (found : List (Hit α))
  | failed (error : StoreError)
  | cancelled

/-- A look-up of what is kept about the entity of one hit or of one result. -/
structure Lookup where
  /-- The type of the hit or result. -/
  entityType : EntityType
  /-- The place of the hit among the hits of its type, or of the result among the results. -/
  position : Nat
  entityId : Text
  deriving Repr, DecidableEq

/-- What a store answers while one request is served. -/
structure IndexStore (α : Type) where
  search : Descriptor → Text → Filters → Int → SearchReply α
  /-- How many seconds a search takes. -/
  searchTime : Descriptor → Float
  /-- The listed entities of a type that pass the filters. -/
  filterMatching : Descriptor → List Text → Filters → Except StoreError (List Text)
  signals : Lookup → Except StoreError Signals
  tagUsage : Lookup → Except StoreError (Option TagUsage)
  entity : Lookup → Except StoreError (Option Json)
  health : Except StoreError Bool
  close : Except StoreError Unit

/-- A store that never answers. -/
def IndexStore.down {α : Type} : IndexStore α where
  search _ _ _ _ := .failed .unavailable
  searchTime _ := 0
  filterMatching _ _ _ := .error .unavailable
  signals _ := .error .unavailable
  tagUsage _ := .error .unavailable
  entity _ := .error .unavailable
  health := .error .unavailable
  close := .error .unavailable

/-- A call that a store has received, and when. -/
inductive StoreCall where
  | search (entityType : EntityType) (compiled : Text) (filters : Filters) (limit : Int)
      (time : Float)
  | filter (entityType : EntityType) (ids : List Text)
  | close

end EntitySearch
