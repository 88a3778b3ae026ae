import EntitySearch.Search.ScriptedSource
import EntitySearch.Semantic.Client
/-!
# Sources of either kind

A source that is the client of the semantic service or follows a script.
-/

namespace EntitySearch

/-- A secondary source of either kind. -/
inductive AnySource where
  | service (client : Semantic.Client)
  | scripted (source : ScriptedSource Float)

namespace AnySource

/-- A run of one kind as a run of either. -/
def lift {σ : Type} (embed : σ → AnySource) (run : SourceRun σ Float) :
    SourceRun AnySource Float :=
  ⟨embed run.source, run.outcome, run.requests⟩

instance : SemanticSource AnySource Float where
  search x q limit t now :=
    match x with
    | .service c => (c.search q limit t now).map (lift .service)
    | .scripted s => (s.search q limit t now).map (lift .scripted)
  waits x :=
    match x with
    | .service c => SemanticSource.waits c
    | .scripted s => SemanticSource.waits s
  close x :=
    match x with
    | .service c => SemanticSource.close c
    | .scripted s => SemanticSource.close s

end AnySource

end EntitySearch
