import EntitySearch.Index.Pool
import EntitySearch.Index.Sql
import EntitySearch.Index.Store
import EntitySearch.Json.Convert
import EntitySearch.Json.Reader
import EntitySearch.Json.Writer
import EntitySearch.Text.Lowercase
/-!
# The relational index

An index store on a database. Each operation asks the shared pool for a connection, sends one
statement and reads the rows that come back. The database is seen through its answers: one for
every pool that is to be created and one for every statement.
-/

namespace EntitySearch

/-- How to reach the database. The values are handed on as they come. -/
structure ConnectionSettings where
  dsn : Json
  poolSize : Json := .int 10
  commandTimeout : Json := .int 30
  deriving Repr

/-- What the database answers to a statement: an error, or rows, or a single row. -/
inductive DatabaseAnswer where
  | failed (cause : Text)
  | answered (rows row : Json)
  deriving Repr, Inhabited

/-- How the result of a statement is asked for. -/
inductive FetchMode where
  | all | one | none
  deriving Repr, DecidableEq

/-- What an operation has sent to the database. -/
inductive DatabaseCall where
  | createPool (settings : ConnectionSettings)
  | statement (mode : FetchMode) (text : Text) (arguments : List Json)
  | closePool

/-- A relational index: its settings, its pool, how many operations it has served, and the answers
that the database will give. -/
structure RelationalIndex where
  settings : ConnectionSettings
  pool : Pool := {}
  served : Nat := 0
  /-- For each pool to be created, why that fails, or nothing if it succeeds. -/
  creations : List (Option Text) := []
  answers : List DatabaseAnswer := []

/-- The outcome of an operation, the index after it and the calls that it made. -/
structure Served (β : Type) where
  outcome : Except StoreError β
  index : RelationalIndex
  calls : List DatabaseCall

namespace Sql

/-- A parameter as JSON. -/
def Parameter.toJson : Parameter → Json
  | .null => .null
  | .int n => .int n
  | .text s => .text s
  | .texts items => .arr (items.map Json.text)

end Sql

namespace RelationalIndex

/-! ## Pool and statements -/

/-- Takes a connection: the pool is created if there is none. -/
def acquire (x : RelationalIndex) : Served Unit :=
  let op := x.served
  let arrived := x.pool.step (.arrive op)
  match arrived.operations.get? op with
  | some .requesting =>
    let calls := [DatabaseCall.createPool x.settings]
    match x.creations.headD none with
    | some cause =>
      ⟨.error (.connection cause),
        { x with
          pool := arrived.step (.denied op), served := op + 1, creations := x.creations.tail },
        calls⟩
    | none =>
      ⟨.ok (),
        { x with
          pool := arrived.step (.granted op), served := op + 1, creations := x.creations.tail },
        calls⟩
  | _ => ⟨.ok (), { x with pool := arrived, served := op + 1 }, []⟩

/-- Sends a statement and passes on its result. -/
def execute (x : RelationalIndex) (mode : FetchMode) (text : Text) (arguments : List Json) :
    Served Json :=
  let taken := x.acquire
  match taken.outcome with
  | .error e => ⟨.error e, taken.index, taken.calls⟩
  | .ok _ =>
    let calls := taken.calls ++ [.statement mode text arguments]
    let index := { taken.index with
      answers := taken.index.answers.tail
      pool := taken.index.pool.step (.finish x.served) }
    match taken.index.answers.headD (.answered .null .null) with
    | .failed cause => ⟨.error (.query cause), index, calls⟩
    | .answered rows row => ⟨.ok (match mode with | .all => rows | _ => row), index, calls⟩

/-- Goes on with the result of a statement. -/
def thenRead {β : Type} (s : Served Json) (read : Json → Except StoreError β) : Served β :=
  ⟨s.outcome.bind read, s.index, s.calls⟩

/-- An answer that needs no statement. -/
def withoutStatement {β : Type} (x : RelationalIndex) (value : β) : Served β :=
  ⟨.ok value, x, []⟩

/-! ## Reading rows -/

/-- The rows of a result. -/
def rowsOf : Json → Except StoreError (List Json)
  | .arr rows => pure rows
  | .obj members => pure (members.map fun e => .text e.1)
  | .atom (.text s) => pure (s.map fun c => .text [c])
  | .atom _ => throw .wrongType

/-- A column of a row. -/
def column (row : Json) (name : Text) : Except StoreError Json :=
  match row with
  | .obj members => match Ledger.get? members name with
    | some v => pure v
    | none => throw (.missingColumn name)
  | _ => throw .wrongType

/-- A conversion of a column, with its failure as the store's. -/
def converted {β : Type} : Except Json.ConversionError β → Except StoreError β
  | .ok x => pure x
  | .error .notConvertible => throw .wrongType
  | .error .unreadable => throw .notANumber
  | .error (.arithmetic .undefined) => throw .notANumber
  | .error (.arithmetic _) => throw .tooLarge

/-- A value that counts as zero when it is vacant. -/
def orZero (value : Json) : Json := if value.isVacant then .int 0 else value

/-- A hit as a row reports it. Id and snippet are passed on as they come. -/
structure RowHit where
  entityId : Json
  score : Float
  snippet : Json
  createdAt : Int

/-- The hit of a row. -/
def readHit (row : Json) : Except StoreError RowHit := do
  let entityId ← column row "entity_id"
  let rank ← converted (← column row "rank").toFloat
  let snippet ← column row "snippet"
  let createdAt ← converted (← column row "created_at").toInt
  pure ⟨entityId, rank.abs, snippet, createdAt⟩

/-- The hits of all rows. -/
def readHits (result : Json) : Except StoreError (List RowHit) := do
  (← rowsOf result).mapM readHit

/-- The id that a row reports. A value with parts is no id. -/
def readId (row : Json) : Except StoreError Atom := do
  match ← column row "entity_id" with
  | .atom id => pure id
  | _ => throw .wrongType

/-- The ids of all rows, each once. -/
def readIds (result : Json) : Except StoreError (List Atom) := do
  pure (Atom.distinct (← (← rowsOf result).mapM readId))

/-- Reads a row, if there is one. -/
def readRowOr {β : Type} (absent : β) (read : Json → Except StoreError β) :
    Json → Except StoreError β
  | .atom .null => pure absent
  | row => read row

/-- The likes and loops of a row; without a row there are none. -/
def readSignals : Json → Except StoreError (Json × Json) :=
  readRowOr (.int 0, .int 0) fun row => do
    let likes ← column row "likes"
    let loops ← column row "loops"
    pure (orZero likes, orZero loops)

/-- The usage of a tag as a row reports it. -/
structure RowUsage where
  tag : Json
  usageCount : Json
  firstSeen : Json
  lastSeen : Json

/-- The usage of a tag, if there is a row for it. -/
def readTagUsage : Json → Except StoreError (Option RowUsage) :=
  readRowOr none fun row => do
    let name ← column row "hashtag"
    let count ← column row "total_usage"
    let first ← column row "first_seen"
    let last ← column row "last_seen"
    pure (some ⟨name, orZero count, orZero first, orZero last⟩)

/-- The two parts of a pair. -/
def pairOf : Json → Except StoreError (Json × Json)
  | .arr [key, value] => pure (key, value)
  | .obj [(key, _), (value, _)] => pure (.text key, .text value)
  | .atom (.text [a, b]) => pure (.text [a], .text [b])
  | .atom (.text _) => throw .malformedRow
  | .atom _ => throw .wrongType
  | _ => throw .malformedRow

/-- The two parts of a pair, the first of which is a key and has no parts. -/
def keyedPair (item : Json) : Except StoreError (Atom × Json) := do
  match ← pairOf item with
  | (.atom key, value) => pure (key, value)
  | _ => throw .wrongType

/-- Sets the value of a key. A key that equals an earlier one takes its place. -/
def putPair (pairs : List (Atom × Json)) (key : Atom) (value : Json) : List (Atom × Json) :=
  match pairs with
  | [] => [(key, value)]
  | (k, v) :: rest => if k.same key then (k, value) :: rest else (k, v) :: putPair rest key value

/-- The name that a key gets in a record. -/
def keyName : Atom → Text
  | .text s => s
  | a => Json.renderAtom a

/-- The members of a row. A row that is no object must list pairs, whose keys have no parts. -/
def membersOf (row : Json) : Except StoreError (List (Text × Json)) :=
  match row with
  | .obj members => pure members
  | _ => do
    let keyed ← (← rowsOf row).mapM keyedPair
    pure ((keyed.foldl (fun found (key, value) => putPair found key value) []).map
      fun (key, value) => (keyName key, value))

/-- How deep the values of tags may be nested. -/
def maxNesting : Nat := 982

/-- A record whose tags, if they are a text, are read as JSON. -/
def readRecord (row : Json) : Except StoreError Json := do
  let members ← membersOf row
  match Ledger.get? members "tags" with
  | some (.atom (.text s)) => match Json.parse maxNesting s with
    | .ok tags => pure (.obj (Ledger.put members "tags" tags))
    | .error .malformed => throw .malformedRecord
    | .error .nestedTooDeep => throw .nestedTooDeep
    | .error _ => throw .notANumber
  | _ => pure (.obj members)

/-- The record of a row, if there is a row. -/
def readEntity : Json → Except StoreError (Option Json) :=
  readRowOr none fun row => do pure (some (← readRecord row))

/-- Whether there is a row. -/
def readHealth : Json → Except StoreError Bool := readRowOr false fun _ => pure true

/-! ## Operations -/

/-- Searches the index of a descriptor. -/
def search (x : RelationalIndex) (d : Descriptor) (compiled : Text) (f : Filters) (limit : Int) :
    Served (List RowHit) :=
  let query := Sql.tsquery compiled
  if query.isEmpty || decide (limit ≤ 0) then x.withoutStatement []
  else
    let statement := Sql.searchStatement d f
    let sent := x.execute .all statement.text
      (.text query :: .int limit :: statement.parameters.map Sql.Parameter.toJson)
    thenRead sent readHits

/-- Which of the listed entities pass the filters, each once. -/
def filterMatching (x : RelationalIndex) (d : Descriptor) (ids : List Text) (f : Filters) :
    Served (List Atom) :=
  if ids.isEmpty then x.withoutStatement []
  else
    let statement := Sql.matchStatement d f
    let sent := x.execute .all statement.text
      (.arr (ids.map Json.text) :: statement.parameters.map Sql.Parameter.toJson)
    thenRead sent readIds

/-- The likes and loops of an entity; without a row there are none. -/
def signals (x : RelationalIndex) (id : Text) : Served (Json × Json) :=
  let sent := x.execute .one "SELECT likes, loops FROM engagement_stats WHERE entity_id = $1"
    [.text id]
  thenRead sent readSignals

/-- The usage of a tag, if there is a row for it. -/
def tagUsage (x : RelationalIndex) (tag : Text) : Served (Option RowUsage) :=
  let sent := x.execute .one
    "SELECT hashtag, total_usage, first_seen, last_seen FROM hashtag_stats WHERE hashtag = $1"
    [.text (Text.lower tag)]
  thenRead sent readTagUsage

/-- The full record of an entity, if there is a row for it. -/
def entity (x : RelationalIndex) (id : Text) : Served (Option Json) :=
  let sent := x.execute .one
    "SELECT id, pubkey, created_at, kind, tags, content, sig FROM events WHERE id = $1" [.text id]
  thenRead sent readEntity

/-- Whether the database answers with a row; failures count as an answer of no. -/
def health (x : RelationalIndex) : Served Bool :=
  let sent := x.execute .one "SELECT 1" []
  let read := thenRead sent readHealth
  ⟨.ok (read.outcome.toOption.getD false), read.index, read.calls⟩

/-- Closes the pool, if there is one. -/
def close (x : RelationalIndex) : Served Unit :=
  match x.pool.current with
  | none => x.withoutStatement ()
  | some pool =>
    ⟨.ok (), { x with pool := (x.pool.step .closeBegin).step (.closeEnd pool) }, [.closePool]⟩

end RelationalIndex

end EntitySearch
