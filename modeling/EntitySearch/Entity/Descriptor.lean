import EntitySearch.Query.Basic
import EntitySearch.Number.Scalar
import EntitySearch.Text.Lowercase
/-!
# Entity descriptors

Every entity type is described once: the index it lives in, the fields that are matched, the event
kinds it covers, how its raw scores are adjusted, and how its hits are shaped and ordered.
-/

namespace EntitySearch

/-- How the raw scores of a type are adjusted. -/
inductive Adjustment where
  | none | engagement | trend
  deriving Repr, DecidableEq, Inhabited

namespace Adjustment

/-- The name of an adjustment. -/
def name : Adjustment → String
  | none => "none"
  | engagement => "engagement"
  | trend => "trend"

end Adjustment

/-- How an entity is presented: as a document with fields, or as a bare tag. -/
inductive Presentation where
  | document | tag
  deriving Repr, DecidableEq, Inhabited

/-- The static description of an entity type. -/
structure Descriptor where
  entityType : EntityType
  /-- The index that holds the type. -/
  index : Text
  /-- The searchable fields, in the order in which they are shown. -/
  fields : List Text
  /-- The event kinds that belong to the type; none if it has no kinds. -/
  kinds : List Int := []
  adjustment : Adjustment := .none
  presentation : Presentation := .document
  deriving Repr, DecidableEq, Inhabited

namespace Descriptor

/-- The description of a type; `all` has none. -/
def of? : EntityType → Option Descriptor
  | .user => some
    { entityType := .user, index := "users_fts"
      fields := ["name", "display_name", "about", "nip05"], kinds := [0] }
  | .video => some
    { entityType := .video, index := "videos_fts"
      fields := ["title", "description", "summary", "content"], kinds := [34235, 34236]
      adjustment := .engagement }
  | .list => some
    { entityType := .list, index := "lists_fts", fields := ["name", "description", "content"]
      kinds := [10000, 10001, 10002, 10003, 30000, 30001, 30002, 30003] }
  | .hashtag => some
    { entityType := .hashtag, index := "hashtags_fts", fields := ["hashtag"]
      adjustment := .trend, presentation := .tag }
  | .note => some
    { entityType := .note, index := "notes_fts", fields := ["content"], kinds := [1]
      adjustment := .engagement }
  | .article => some
    { entityType := .article, index := "articles_fts", fields := ["title", "summary", "content"]
      kinds := [30023], adjustment := .engagement }
  | .community => some
    { entityType := .community, index := "communities_fts", fields := ["name", "description"]
      kinds := [34550] }
  | .all => none

/-- All descriptions. -/
def registered : List Descriptor := EntityType.every.filterMap of?

/-- Whether events of a kind belong to the type. -/
def acceptsKind (d : Descriptor) (kind : Int) : Bool := d.kinds.isEmpty || d.kinds.contains kind

/-- Whether the type accepts the kind that is asked for, if one is. -/
def acceptsGiven (d : Descriptor) (kind : Given Int) : Bool :=
  match kind.value? with
  | none => true
  | some k => d.acceptsKind k

/-- The terms that a type is searched for. Tags are indexed in lower case, and a tag that the
query asks for is searched like a term. -/
def queryTerms (d : Descriptor) (q : Query) : List Text :=
  match d.presentation with
  | .document => q.terms
  | .tag => q.terms.map Text.lower ++ q.hashtags

/-- The result that shows a hit. A document with no known matching field shows all its fields, a
tag without a snippet shows itself. -/
def shape {α : Type} (d : Descriptor) (hit : Hit α) (score : α) : SearchResult α :=
  match d.presentation with
  | .document =>
    { entityType := d.entityType, entityId := hit.entityId, score := score
      snippet := (hit.snippet.map Json.text).getD .null
      matchFields := (if hit.matchFields.isEmpty then d.fields else hit.matchFields).map Atom.text
      createdAt := hit.createdAt, fusionScore := none }
  | .tag =>
    { entityType := d.entityType, entityId := hit.entityId, score := score
      snippet := .text (match hit.snippet with
        | some s => if s.isEmpty then "#" ++ hit.entityId else s
        | none => "#" ++ hit.entityId)
      matchFields := [.text "hashtag"]
      createdAt := hit.createdAt, fusionScore := none }

end Descriptor

/-- The type and its share of the results of a unified search, in percent and in the order in which
the types are searched. -/
def quotaPercents : List (EntityType × Nat) :=
  [(.video, 35), (.note, 25), (.user, 15), (.list, 10), (.article, 10), (.community, 5)]

/-- The share of a type in unified search, for the types that are part of it. -/
def quota? {α : Type} [Scalar α] (t : EntityType) : Option α :=
  (quotaPercents.find? (fun e => e.1 = t)).map fun e => Scalar.decimal e.2 2

/-- The part of a limit that a share amounts to, rounded up. -/
def quotaLimit {α : Type} [Scalar α] (limit : Int) (share : α) :
    Except Number.ArithmeticError Int :=
  if limit ≤ 0 ∨ Scalar.isAtMostZero share then pure 0
  else do
    let whole ← Scalar.ofInt limit
    Scalar.ceilNano (whole * share)

end EntitySearch
