import EntitySearch.Index.Store
import EntitySearch.Ranking.Relevance
/-!
# Adjusting hits

The raw hits of one type become results with adjusted scores, in the same order. What is kept about
an entity is looked up in the index store; a hit whose look-up fails keeps its raw score.
-/

namespace EntitySearch

open Number (ArithmeticError)

variable {α : Type} [LogScalar α]

/-- How hits are adjusted: the weights of the boost, and the moment for trends in whole seconds. -/
structure Adjuster (α : Type) where
  weights : BoostWeights α
  now : Except ArithmeticError Int

namespace Adjuster

/-- The adjusted score of a hit at a place among the hits of a type. -/
def score (a : Adjuster α) (store : IndexStore α) (d : Descriptor) (now : Int) (position : Nat)
    (hit : Hit α) : Except ArithmeticError α :=
  let lookup : Lookup := ⟨d.entityType, position, hit.entityId⟩
  match d.adjustment with
  | .none => pure hit.score
  | .engagement =>
    match store.signals lookup with
    | .error _ => pure hit.score
    | .ok signals => pure (a.weights.boost hit.score (some signals))
  | .trend =>
    match store.tagUsage lookup with
    | .error _ => pure hit.score
    | .ok none => pure (Scalar.ofNat 0)
    | .ok (some usage) => trendingScore usage.usageCount usage.firstSeen now

/-- The results of hits from a place on. -/
def adjustFrom (a : Adjuster α) (store : IndexStore α) (d : Descriptor) (now : Int) :
    Nat → List (Hit α) → Except ArithmeticError (List (SearchResult α))
  | _, [] => pure []
  | position, hit :: rest => do
    let adjusted ← a.score store d now position hit
    let results ← a.adjustFrom store d now (position + 1) rest
    pure (d.shape hit adjusted :: results)

/-- The results of a type's hits, in the same order. -/
def adjust (a : Adjuster α) (store : IndexStore α) (d : Descriptor) (hits : List (Hit α)) :
    Except ArithmeticError (List (SearchResult α)) := do
  let now ← a.now
  a.adjustFrom store d now 0 hits

end Adjuster

end EntitySearch
