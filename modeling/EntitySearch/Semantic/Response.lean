import EntitySearch.Entity.Basic
import EntitySearch.Json.Convert
import EntitySearch.Json.Document
/-!
# Answers of the semantic service

The service answers a request with a JSON object that holds a list of results. An item without a
known type or without an id is left out; an item that is no object, or a part of which cannot be
converted, spoils the whole answer.
-/

namespace EntitySearch.Semantic

/-- Why there is no answer that can be used. -/
inductive AnswerError where
  /-- The request cannot even be sent. -/
  | unsendable
  /-- The address of the service does not say where it leads. -/
  | relativeAddress
  /-- The service did not answer at all. -/
  | unreachable
  /-- The status is not 200. -/
  | status (code : Int)
  /-- The body is no text or no JSON. -/
  | body (cause : Json.SyntaxError)
  /-- The body or an item has a wrong form. -/
  | shape
  /-- A score or a time is no number. -/
  | conversion (cause : Json.ConversionError)
  deriving Repr, DecidableEq

/-- The items that a value lists: those of an array, the keys of an object, the characters of a
text. -/
def listed : Json → Except AnswerError (List Json)
  | .arr items => pure items
  | .obj members => pure (members.map fun e => .text e.1)
  | .atom (.text s) => pure (s.map fun c => .text [c])
  | .atom _ => throw .shape

/-- The atoms of a list in which nothing has parts. -/
def atoms : List Json → Except AnswerError (List Atom)
  | [] => pure []
  | .atom a :: rest => do pure (a :: (← atoms rest))
  | _ :: _ => throw .shape

/-- Passes on a conversion. -/
def lift {β : Type} : Except Json.ConversionError β → Except AnswerError β
  | .ok x => pure x
  | .error e => throw (.conversion e)

/-- The fields in which an item says it matched, each of them once. -/
def matchFields (value : Json) : Except AnswerError (List Atom) :=
  if value.isVacant then pure []
  else do pure (Atom.distinctBy Atom.alike (← atoms (← listed value)))

/-- The known type that an item names. -/
def itemType? (item : Json) : Option EntityType :=
  match item.get? "entity_type" with
  | some (.atom (.text name)) => (EntityType.ofName? name).filter (· ≠ .all)
  | _ => none

/-- The result that an item of an answer stands for, or nothing if it has no known type or no
id. -/
def readItem (item : Json) : Except AnswerError (Option (SearchResult Float)) :=
  match item with
  | .obj _ =>
    let id := (item.get? "entity_id").getD .null
    match itemType? item with
    | none => pure none
    | some t =>
      if id.isVacant then pure none
      else do
        let score ← lift ((item.get? "score").getD .null).toFloat
        let fields ← matchFields ((item.get? "match_fields").getD .null)
        let createdAt ← lift ((item.get? "created_at").getD .null).toInt
        pure (some
          { entityType := t, entityId := id.display, score := score
            snippet := (item.get? "snippet").getD .null, matchFields := fields
            createdAt := createdAt, fusionScore := none })
  | _ => throw .shape

/-- How deep the values of an answer may be nested. -/
def maxNesting : Nat := 978

/-- The results of an answer's body. -/
def readBody (body : Text) : Except AnswerError (List (SearchResult Float)) := do
  match (body.chars?.map (Json.parseDocument maxNesting)).getD (.error .undecodable) with
  | .error e => throw (.body e)
  | .ok value =>
    match value with
    | .obj _ =>
      let items ← listed ((value.get? "results").getD (.arr []))
      pure ((← items.mapM readItem).filterMap id)
    | _ => throw .shape

end EntitySearch.Semantic
