import EntitySearch.Index.Store
import EntitySearch.Ledger
/-!
# A scripted index store

A store that answers by a script instead of an index: which types are slow, fail or are cancelled,
and what is found and kept. It stands in for an index where the behaviour of searches under delays
and failures matters.
-/

namespace EntitySearch

/-- The script of a store. -/
structure ScriptedStore (α : Type) where
  /-- How many seconds the search in a type takes. -/
  delays : Ledger EntityType Float := []
  /-- The types whose search fails. -/
  failing : List EntityType := []
  /-- The types whose search is cancelled. -/
  cancelling : List EntityType := []
  /-- The hits of each type; without them as many hits as asked for are made up. -/
  hits : Option (Ledger EntityType (List (Hit α))) := none
  /-- The types whose filter check fails. -/
  filterFailing : List EntityType := []
  /-- The entities that pass filters; without them all do. -/
  passing : Option (List Text) := none
  /-- The entities and tags whose counters cannot be looked up. -/
  lookupFailing : List Text := []
  signals : Ledger Text Signals := []
  usage : Ledger Text TagUsage := []
  /-- The entities whose record cannot be looked up. -/
  entityFailing : List Text := []
  entities : Ledger Text Json := []
  health : Except StoreError Bool := .ok true
  closeFails : Bool := false

namespace ScriptedStore

variable {α : Type} [Scalar α]

/-- As many hits of a type as asked for, the first with the greatest score. -/
def madeUp (t : EntityType) (limit : Int) : List (Hit α) :=
  (List.range limit.toNat).map fun i =>
    { entityId := t.name ++ "-" ++ toString i
      score := Scalar.ofNat (limit.toNat - i)
      snippet := none, matchFields := [], createdAt := 0 }

/-- How the search in a type ends. -/
def reply (s : ScriptedStore α) (t : EntityType) (limit : Int) : SearchReply α :=
  if s.failing.contains t then .failed .unavailable
  else if s.cancelling.contains t then .cancelled
  else
    match s.hits with
    | some hits => .hits ((hits.get? t).getD [])
    | none => .hits (madeUp t limit)

/-- The script as a store. -/
def toStore (s : ScriptedStore α) : IndexStore α where
  search d _ _ limit := s.reply d.entityType limit
  searchTime d := (s.delays.get? d.entityType).getD 0
  filterMatching d ids _ :=
    if s.filterFailing.contains d.entityType then .error .unavailable
    else
      match s.passing with
      | none => .ok ids
      | some passing => .ok (ids.filter passing.contains)
  signals l :=
    if s.lookupFailing.contains l.entityId then .error .unavailable
    else .ok ((s.signals.get? l.entityId).getD {})
  tagUsage l :=
    if s.lookupFailing.contains l.entityId then .error .unavailable
    else .ok (s.usage.get? l.entityId)
  entity l :=
    if s.entityFailing.contains l.entityId then .error .unavailable
    else .ok (s.entities.get? l.entityId)
  health := s.health
  close := if s.closeFails then .error .unavailable else .ok ()

end ScriptedStore

end EntitySearch
