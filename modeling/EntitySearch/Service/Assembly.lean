import EntitySearch.Index.Relational
import EntitySearch.Search.AnySource
import EntitySearch.Search.Hybrid
import EntitySearch.Semantic.Client
import EntitySearch.Service.Settings
/-!
# Putting a service together

Which index store, which secondary source and which parameters of searching the settings ask for.
-/

namespace EntitySearch

/-- The store that is asked for. -/
inductive StoreChoice where
  | memory
  | relational (settings : ConnectionSettings)
  deriving Repr

/-- Why no store can be made. -/
inductive StoreChoiceError where
  | unsupported (name : Text)
  | missingAddress
  deriving Repr, DecidableEq

/-- What is reported when no store can be made. -/
def StoreChoiceError.message : StoreChoiceError → Text
  | unsupported name => "Unsupported index store type: " ++ name
  | missingAddress => "Postgres index store requires 'dsn'"

namespace StoreChoice

/-- The store of a name. A database needs an address that is not vacant. -/
def ofName (name : Json) (settings : ConnectionSettings) : Except StoreChoiceError StoreChoice :=
  match name with
  | .atom (.text s) =>
    if s = "memory" then pure .memory
    else if s = "postgres" then
      if settings.dsn.isVacant then throw .missingAddress else pure (.relational settings)
    else throw (.unsupported s)
  | _ => throw (.unsupported name.display)

end StoreChoice

/-- A service as the settings describe it. -/
structure Assembly where
  store : StoreChoice
  client : Option Semantic.Client
  limits : SearchLimits
  fusion : RankFusion Float

namespace Assembly

/-- The limits and bounds that settings set. -/
def limitsOf (values : Ledger Text Json) : SearchLimits where
  defaultLimit := Ledger.wholeOf values "relay_search_default_limit"
  maxLimit := Ledger.wholeOf values "relay_search_max_limit"
  maxConcurrency := Ledger.wholeOf values "relay_search_max_concurrency"
  timeout := Ledger.realOf? values "relay_search_timeout_seconds"

/-- The parameters of fusion that settings set. -/
def fusionOf (values : Ledger Text Json) : RankFusion Float where
  k := Ledger.wholeOf values "relay_search_rrf_k"
  secondaryBoost := (Ledger.realOf? values "relay_search_semantic_boost").getD 0

/-- The client that settings ask for: there is one if the address of the service is not empty. -/
def clientOf (values : Ledger Text Json) : Option Semantic.Client :=
  ((Ledger.textOf? values "relay_semantic_service_url").filter (fun url => !url.isEmpty)).map
    fun url =>
      Semantic.Client.new url
        { attempts := Ledger.wholeOf values "relay_semantic_retry_attempts"
          baseDelay := (Ledger.realOf? values "relay_semantic_retry_base_delay").getD 0
          maxDelay := (Ledger.realOf? values "relay_semantic_retry_max_delay").getD 0 }
        Semantic.usualBreaker [{ unreachable := true }]

/-- The store that settings ask for. -/
def storeOf (values : Ledger Text Json) : Except StoreChoiceError StoreChoice :=
  let value := fun (name : Text) => (values.get? name).getD .null
  StoreChoice.ofName (value "relay_index_backend")
    { dsn := value "relay_index_db_dsn", poolSize := value "relay_index_pool_size"
      commandTimeout := value "relay_index_command_timeout" }

/-- The service that settings describe. -/
def ofSettings (values : Ledger Text Json) : Except StoreChoiceError Assembly := do
  let store ← storeOf values
  pure ⟨store, clientOf values, limitsOf values, fusionOf values⟩

/-- What a service searches with, given the stores that can be chosen between. -/
def searcher (a : Assembly) (memory database : IndexStore Float) (adjuster : Adjuster Float) :
    Searcher AnySource Float where
  store := match a.store with
    | .memory => memory
    | .relational _ => database
  source := a.client.map AnySource.service
  limits := a.limits
  fusion := a.fusion
  adjuster := adjuster

end Assembly

end EntitySearch
