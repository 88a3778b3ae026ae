import EntitySearch.Entity.Descriptor
import EntitySearch.Ranking.RunSort
/-!
# Ranking

Results are ranked by descending keys; results with equal keys keep their order. In general the key
is the score with the time of creation; tags that a query names come first, then tags that begin
with one of its terms.
-/

namespace EntitySearch

variable {α : Type} [Scalar α]

/-- The items by descending key, where `less` compares keys; items with equal keys keep their
order. If a key is not `orderly`, which means that it cannot be compared, the order is the one that
sorting by runs from the back leads to. -/
def sortDescending {β κ : Type} (less : κ → κ → Bool) (orderly : κ → Bool) (key : β → κ)
    (items : List β) : List β :=
  if items.all (fun x => orderly (key x)) then items.mergeSort (fun a b => !less (key a) (key b))
  else (RunSort.sort (fun a b => less (key a) (key b)) items.reverse).reverse

/-- The first `limit` items; none if the limit is negative. -/
def cut {β : Type} (limit : Int) (items : List β) : List β := items.take limit.toNat

namespace SearchResult

/-- The key of general ranking. -/
def rankKey (r : SearchResult α) : α × Int := (r.score, r.createdAt)

/-- The results by score and then by time of creation, both descending, cut to a limit. -/
def rank (limit : Int) (results : List (SearchResult α)) : List (SearchResult α) :=
  cut limit (sortDescending Scalar.pairLess Scalar.isPairOrderly rankKey results)

end SearchResult

/-- The key by which a type's results are ranked: whether the entity is asked for by name, whether
its name begins with a term, the score and the time of creation. Only tags use the first two. -/
structure TypeKey (α : Type) where
  exact : Bool
  begins : Bool
  pair : α × Int

namespace TypeKey

/-- Whether one key is below another: the first component in which they differ decides. -/
def less (a b : TypeKey α) : Bool :=
  if a.exact != b.exact then b.exact
  else if a.begins != b.begins then b.begins
  else Scalar.pairLess a.pair b.pair

end TypeKey

namespace Descriptor

/-- The key of a result among the results of its type. -/
def sortKey (d : Descriptor) (q : Query) (r : SearchResult α) : TypeKey α :=
  match d.presentation with
  | .document => ⟨false, false, r.rankKey⟩
  | .tag =>
    let terms := d.queryTerms q
    ⟨terms.contains r.entityId,
      terms.any (fun t => t.isPrefixOf r.entityId), r.rankKey⟩

/-- A type's results in its own order. -/
def order (d : Descriptor) (q : Query) (results : List (SearchResult α)) :
    List (SearchResult α) :=
  sortDescending TypeKey.less (fun k => Scalar.isPairOrderly k.pair) (d.sortKey q) results

end Descriptor

end EntitySearch
