import EntitySearch.Index.Store
import EntitySearch.Index.Highlight
import EntitySearch.Query.Lexical
import EntitySearch.Ranking.Order
import EntitySearch.Ranking.Relevance
/-!
# The index in memory

Documents are kept under their type and id in the order in which they were first added, together
with interaction counters per id and usage counters per tag. A search matches documents of one
type: a document matches when a word of a searchable field begins with a prefix of the query. The
raw score counts the matched prefixes and adds a hundredth for every field with a match.
-/

namespace EntitySearch

/-- A document of the index, with the attributes that filters look at. -/
structure Document where
  entityId : Text
  fields : Ledger Text Text
  createdAt : Int := 0
  author : Option Text := none
  kind : Option Int := none
  hashtags : List Text := []
  record : Ledger Text Json := []
  deriving Repr, Inhabited

/-- An index in memory. -/
structure MemoryIndex where
  documents : Ledger (EntityType × Text) Document := []
  engagement : Ledger Text Signals := []
  tagUsage : Ledger Text TagUsage := []
  deriving Repr, Inhabited

/-- Why a document is not added. -/
inductive AddError where
  /-- The type has no index. -/
  | noIndex
  /-- Some fields are not searchable for the type. -/
  | unknownFields (names : List Text) (entityType : EntityType)
  /-- The kind does not belong to the type. -/
  | foreignKind (kind : Int) (entityType : EntityType)
  deriving Repr, DecidableEq

/-- What is reported of a document that is not added. -/
def AddError.message? : AddError → Option Text
  | .noIndex => none
  | .unknownFields names t => some ("Fields [" ++ Text.join ", " (names.map Text.quoted)
      ++ "] are not searchable for " ++ t.name)
  | .foreignKind kind t => some ("Kind " ++ toString kind ++ " is not a " ++ t.name ++ " kind")

namespace MemoryIndex

/-! ## Keeping documents and counters -/

/-- Sets the interaction counters of an entity. -/
def setEngagement (m : MemoryIndex) (id : Text) (signals : Signals) : MemoryIndex :=
  { m with engagement := m.engagement.put id signals }

/-- Whether a counter says anything. -/
def counts (n : Option Int) : Bool := n.any (· ≠ 0)

/-- Puts a document in its place, as it is. -/
def place (m : MemoryIndex) (t : EntityType) (doc : Document) : MemoryIndex :=
  { m with documents := m.documents.put (t, doc.entityId) doc }

/-- The names among `names` that are no fields of a type, ascending and without repeats. -/
def unknownFields (d : Descriptor) (names : List Text) : List Text :=
  ((names.filter (fun n => !d.fields.contains n)).eraseDups).mergeSort fun a b => !Text.before b a

/-- Adds or replaces a document of a type. Its tags are kept in lower case, and counters are set
only if one of them is not zero. -/
def add (m : MemoryIndex) (t : EntityType) (doc : Document) (signals : Signals) :
    Except AddError MemoryIndex :=
  match Descriptor.of? t with
  | none => throw .noIndex
  | some d =>
    let unknown := unknownFields d doc.fields.keys
    if !unknown.isEmpty then throw (.unknownFields unknown t)
    else
      match doc.kind.filter (fun k => !d.acceptsKind k) with
      | some k => throw (.foreignKind k t)
      | none =>
        let placed := m.place t { doc with hashtags := doc.hashtags.map Text.lower }
        pure (if counts signals.likes || counts signals.loops then
          placed.setEngagement doc.entityId signals else placed)

/-- Removes a document, telling whether there was one. -/
def remove (m : MemoryIndex) (t : EntityType) (id : Text) :
    Except AddError (MemoryIndex × Bool) :=
  match Descriptor.of? t with
  | none => throw .noIndex
  | some _ => pure ({ m with documents := m.documents.erase (t, id) }, m.documents.has (t, id))

/-- Counts one use of a tag and makes the tag searchable. -/
def recordTag (m : MemoryIndex) (tag : Text) (now : Int) : MemoryIndex × TagUsage :=
  let name := Text.lower tag
  let usage := TagUsage.record (m.tagUsage.get? name) name now
  let counted := { m with tagUsage := m.tagUsage.put name usage }
  (counted.place .hashtag
    { entityId := name, fields := [("hashtag", name)], createdAt := usage.firstSeen }, usage)

/-! ## Looking up -/

/-- The documents of a type, in the order in which they were first added. -/
def documentsOf (m : MemoryIndex) (t : EntityType) : List Document :=
  m.documents.filterMap (fun e => if e.1.1 = t then some e.2 else none)

/-- How many documents there are in all. -/
def size (m : MemoryIndex) : Nat := m.documents.length

/-- How many documents of a type there are. -/
def sizeOf? (m : MemoryIndex) (t : EntityType) : Except AddError Nat :=
  match Descriptor.of? t with
  | none => throw .noIndex
  | some _ => pure (m.documentsOf t).length

/-- The interaction counters of an entity; unknown entities have none. -/
def signals (m : MemoryIndex) (id : Text) : Signals := (m.engagement.get? id).getD {}

/-- The counters of a tag. -/
def usage? (m : MemoryIndex) (tag : Text) : Option TagUsage :=
  m.tagUsage.get? (Text.lower tag)

/-- The record of a document; without one, its id and its fields. -/
def recordOf (doc : Document) : Json :=
  if doc.record.isEmpty then
    .obj (("id", .text doc.entityId) :: doc.fields.map (fun (k, v) => (k, .text v)))
  else .obj doc.record

/-- The record of the first document with an id, the types being looked through in order. -/
def entity? (m : MemoryIndex) (id : Text) : Option Json :=
  (Descriptor.registered.findSome? fun d => m.documents.get? (d.entityType, id)).map recordOf

/-! ## Filters -/

/-- Whether a number is within the bound that a filter sets. A null filter and an unknown number
cannot be compared. -/
def withinBound (bound : Given Int) (x : Option Int) (ok : Int → Int → Bool) :
    Except StoreError Bool :=
  match bound, x with
  | .absent, _ => pure true
  | .value b, some n => pure (ok n b)
  | _, _ => throw .incomparable

/-- The second test after the first has passed. -/
def andThen (first second : Except StoreError Bool) : Except StoreError Bool := do
  if ← first then second else pure false

/-- Whether a document with these counters passes the filters. Tags pass all of them. -/
def passes (d : Descriptor) (doc : Document) (s : Signals) (f : Filters) :
    Except StoreError Bool :=
  if d.entityType = .hashtag then pure true
  else
    andThen (pure (!f.author.isGiven || doc.author == f.author.value?)) <|
    andThen (pure (!f.kind.isGiven || doc.kind == f.kind.value?)) <|
    andThen (pure ((f.hashtags.getD []).all doc.hashtags.contains)) <|
    andThen (withinBound f.since (some doc.createdAt) (fun n b => decide (b ≤ n))) <|
    andThen (withinBound f.til (some doc.createdAt) (fun n b => decide (n ≤ b))) <|
    andThen (withinBound f.minLikes s.likes (fun n b => decide (b ≤ n))) <|
    withinBound f.minLoops s.loops (fun n b => decide (b ≤ n))

/-- Whether a document of the index passes the filters. -/
def passesIn (m : MemoryIndex) (d : Descriptor) (f : Filters) (doc : Document) :
    Except StoreError Bool :=
  passes d doc (m.signals doc.entityId) f

/-! ## Searching -/

/-- The lower-cased words of a field; a missing field has none. -/
def fieldWords (doc : Document) (name : Text) : List Text :=
  (Text.wordsOf ((doc.fields.get? name).getD [])).map Text.lower

/-- The prefixes with which a word of a field begins. -/
def matchedPrefixes (prefixes : List Text) (doc : Document) (name : Text) : List Text :=
  let words := fieldWords doc name
  prefixes.filter (fun p => words.any p.isPrefixOf)

/-- The hit of a document, if a searchable field of it matches a prefix. -/
def hit? {α : Type} [Scalar α] (d : Descriptor) (prefixes : List Text) (doc : Document) :
    Option (Hit α) :=
  let found := d.fields.map (fun name => (name, matchedPrefixes prefixes doc name))
  let matched := found.filter (fun e => !e.2.isEmpty)
  match matched with
  | [] => none
  | (first, _) :: _ =>
    let count := (matched.flatMap Prod.snd).eraseDups.length
    let names := (matched.map Prod.fst).eraseDups
    some
      { entityId := doc.entityId
        score := Scalar.ofNat count + Scalar.decimal 1 2 * Scalar.ofNat names.length
        snippet := some (Highlight.snippet prefixes ((doc.fields.get? first).getD []))
        matchFields := names
        createdAt := doc.createdAt }

/-- The type whose documents an index holds. -/
def typeOfIndex? (index : Text) : Option EntityType :=
  (Descriptor.registered.find? (fun d => d.index = index)).map Descriptor.entityType

/-- The lower-cased prefixes of a lexical query. -/
def searchPrefixes (compiled : Text) : List Text := (Lexical.split compiled).map Text.lower

/-- Searches the index of a descriptor: the hits by score and then by time of creation, both
descending, cut to a limit. -/
def search {α : Type} [Scalar α] (m : MemoryIndex) (d : Descriptor) (compiled : Text)
    (f : Filters) (limit : Int) : Except StoreError (List (Hit α)) :=
  match typeOfIndex? d.index with
  | none => throw (.unknownIndex d.index)
  | some t =>
    let prefixes := searchPrefixes compiled
    if prefixes.isEmpty || decide (limit ≤ 0) then pure []
    else do
      let passing ← (m.documentsOf t).filterM (m.passesIn d f)
      let hits := passing.filterMap (hit? d prefixes)
      pure (cut limit
        (sortDescending Scalar.pairLess Scalar.isPairOrderly
          (fun h : Hit α => (h.score, h.createdAt)) hits))

/-- The listed entities that have a document in the index of a descriptor which passes the
filters. -/
def filterMatching (m : MemoryIndex) (d : Descriptor) (ids : List Text) (f : Filters) :
    Except StoreError (List Text) :=
  match typeOfIndex? d.index with
  | none => pure []
  | some t =>
    ids.filterM fun id =>
      match m.documents.get? (t, id) with
      | none => pure false
      | some doc => m.passesIn d f doc

/-- The index as a store. Its searches take no time. -/
def toStore {α : Type} [Scalar α] (m : MemoryIndex) : IndexStore α where
  search d compiled f limit :=
    match m.search d compiled f limit with
    | .ok hits => .hits hits
    | .error e => .failed e
  searchTime _ := 0
  filterMatching := m.filterMatching
  signals l := pure (m.signals l.entityId)
  tagUsage l := pure (m.usage? l.entityId)
  entity l := pure (m.entity? l.entityId)
  health := pure true
  close := pure ()

end MemoryIndex

end EntitySearch
