import EntitySearch.Ranking.Order
import EntitySearch.Search.Source
/-!
# A scripted source

A secondary source that always returns the same results, after a delay, or fails.
-/

namespace EntitySearch

/-- The script of a source. -/
structure ScriptedSource (α : Type) where
  results : List (SearchResult α) := []
  fails : Bool := false
  /-- How many seconds an answer takes. -/
  delay : Float := 0
  closeFails : Bool := false

namespace ScriptedSource

variable {α : Type}

/-- How a search in the source ends. -/
def outcome (s : ScriptedSource α) (limit : Int) : SourceOutcome α :=
  if s.fails then .failed else .returned (cut limit s.results)

/-- A search in the source. -/
def search (s : ScriptedSource α) (q : Query) (limit : Int) (t : Option EntityType) (_ : Float) :
    Activity (SourceRun (ScriptedSource α) α) :=
  let asked := [SourceRequest.asked q.terms limit t]
  let ended := ⟨s, s.outcome limit, asked⟩
  if s.delay == 0 then .ended ended else .waits ⟨s, .pending, asked⟩ s.delay fun _ => .ended ended

instance : SemanticSource (ScriptedSource α) α where
  search := search
  waits _ := 1
  close s := if s.closeFails then [] else [.closed]

end ScriptedSource

end EntitySearch
