import EntitySearch.Ranking.Order
import EntitySearch.Ledger
/-!
# Reciprocal rank fusion

Two ranked lists are fused into one. An entity at rank `i` of a list, counted from zero, contributes
the list's weight divided by `k + i + 1`; an entity in both lists sums its contributions and takes
the mean of its two scores. Only the first occurrence of an entity in a list counts. The fused list
is ordered by descending sums, equal ones in the order of the primary list followed by the
secondary one.
-/

namespace EntitySearch

open Number (ArithmeticError)

variable {α : Type} [Scalar α]

/-- The parameters of rank fusion: the rank constant, and the weight of the secondary list against
the primary one. -/
structure RankFusion (α : Type) where
  k : Int
  secondaryBoost : α

/-- The usual parameters. -/
def RankFusion.usual : RankFusion α := ⟨60, Scalar.decimal 15 1⟩

/-- The first occurrence of an entity in a ranked list, with what it contributes. -/
structure Ranked (α : Type) where
  contribution : α
  result : SearchResult α

namespace RankFusion

/-- The name of the method. -/
def name : String := "rrf"

/-- The first occurrences of the entities in a list from a rank on. `seen` holds the entities that
occurred before. -/
def rankedFrom (k : Int) (weight : α) (seen : List Text) (rank : Int) :
    List (SearchResult α) → Except ArithmeticError (Ledger Text (Ranked α))
  | [] => pure []
  | r :: rest =>
    if seen.contains r.entityId then rankedFrom k weight seen (rank + 1) rest
    else do
      let contribution ← Scalar.divInt weight (k + rank + 1)
      let later ← rankedFrom k weight (r.entityId :: seen) (rank + 1) rest
      pure ((r.entityId, ⟨contribution, r⟩) :: later)

/-- The first occurrence of every entity in a list. -/
def ranked (k : Int) (weight : α) (results : List (SearchResult α)) :
    Except ArithmeticError (Ledger Text (Ranked α)) :=
  rankedFrom k weight [] 0 results

/-- An entity of the primary list, joined with its occurrence in the secondary one. -/
def join (primary : Ranked α) (secondary : Option (Ranked α)) : α × SearchResult α :=
  match secondary with
  | none => (primary.contribution, { primary.result with fusionScore := some primary.contribution })
  | some s =>
    let sum := primary.contribution + s.contribution
    (sum, { primary.result with
      score := Scalar.half (primary.result.score + s.result.score), fusionScore := some sum })

/-- The fused entities with their sums, those of the primary list first. -/
def candidates (primary secondary : Ledger Text (Ranked α)) : List (α × SearchResult α) :=
  primary.map (fun (id, r) => join r (secondary.get? id))
    ++ (secondary.filter (fun e => !primary.has e.1)).map (fun (_, r) => join r none)

/-- Fuses two ranked lists and cuts the result to a limit. -/
def fuse (f : RankFusion α) (primary secondary : List (SearchResult α)) (limit : Int) :
    Except ArithmeticError (List (SearchResult α)) := do
  let first ← ranked f.k (Scalar.ofNat 1) primary
  let second ← ranked f.k f.secondaryBoost secondary
  pure (cut limit
    ((sortDescending Scalar.less Scalar.isOrderly Prod.fst (candidates first second)).map
      Prod.snd))

end RankFusion

/-- The fusion method of a name is not known. -/
structure UnknownFusion where
  name : Text
  deriving Repr, DecidableEq

/-- What is reported of an unknown method. -/
def UnknownFusion.message (e : UnknownFusion) : Text := "Unknown fusion algorithm: " ++ e.name

/-- Whether a fusion method of a name exists. -/
def RankFusion.checkName (name : Text) : Except UnknownFusion Unit :=
  if name = RankFusion.name then pure () else throw ⟨name⟩

end EntitySearch
