import EntitySearch.Entity.Descriptor
import EntitySearch.Query.Lexical
import EntitySearch.Text.Word
/-!
# Statements for a relational index

Each index is a table with the columns that filters look at and one text column per searchable
field; engagement counters stand in a table of their own. A lexical query becomes the text of a
full-text query, and filters become conditions with numbered placeholders: no value that a client
sends is ever part of a statement's text.
-/

namespace EntitySearch.Sql

/-! ## Full-text queries -/

/-- A prefix as it stands in a full-text query: its word characters, in lower case. -/
def lexeme (part : Text) : Text := Text.lower (part.filter Text.isWordChar)

/-- The lexemes of a lexical query; a prefix without word characters has none. -/
def lexemes (compiled : Text) : List Text :=
  ((Lexical.split compiled).map lexeme).filter (· ≠ [])

/-- The full-text query for a lexical query: its lexemes, each marked as a prefix, as
alternatives. -/
def tsquery (compiled : Text) : Text :=
  Text.join " | " ((lexemes compiled).map fun w => w ++ ":*")

/-! ## Conditions -/

/-- The columns that filters look at. -/
inductive Column where
  | author | kind | hashtags | createdAt | likes | loops
  deriving Repr, DecidableEq

/-- The text of a column. An entity without engagement counters counts as having none. -/
def Column.text : Column → String
  | author => "d.pubkey"
  | kind => "d.kind"
  | hashtags => "d.hashtags"
  | createdAt => "d.created_at"
  | likes => "COALESCE(s.likes, 0)"
  | loops => "COALESCE(s.loops, 0)"

/-- How a column is compared with a parameter. -/
inductive Comparison where
  | equals | includes | atLeast | atMost
  deriving Repr, DecidableEq

/-- A parameter of a statement. -/
inductive Parameter where
  | null
  | int (n : Int)
  | text (s : Text)
  | texts (items : List Text)
  deriving Repr, DecidableEq

/-- A condition: a column, how it is compared, and with what. -/
structure Condition where
  column : Column
  comparison : Comparison
  parameter : Parameter
  deriving Repr, DecidableEq

/-- The text of a condition whose parameter has a number. -/
def Condition.text (c : Condition) (number : Nat) : String :=
  let placeholder := "$" ++ toString number
  c.column.text ++ match c.comparison with
    | .equals => " = " ++ placeholder
    | .includes => " @> " ++ placeholder ++ "::text[]"
    | .atLeast => " >= " ++ placeholder
    | .atMost => " <= " ++ placeholder

/-- The parameter for a filter, if the filter was given. -/
def parameter? {α : Type} (encode : α → Parameter) : Given α → Option Parameter
  | .absent => none
  | .null => some .null
  | .value a => some (encode a)

/-- The condition for a filter, if the filter was given. -/
def condition? {α : Type} (column : Column) (comparison : Comparison) (encode : α → Parameter)
    (filter : Given α) : Option Condition :=
  (parameter? encode filter).map fun p => ⟨column, comparison, p⟩

/-- The conditions of filters, in their fixed order. -/
def filterConditions (f : Filters) : List Condition :=
  [condition? .author .equals Parameter.text f.author,
    condition? .kind .equals Parameter.int f.kind,
    f.hashtags.map fun tags => ⟨.hashtags, .includes, .texts tags⟩,
    condition? .createdAt .atLeast Parameter.int f.since,
    condition? .createdAt .atMost Parameter.int f.til,
    condition? .likes .atLeast Parameter.int f.minLikes,
    condition? .loops .atLeast Parameter.int f.minLoops].filterMap id

/-- The conditions that filters set for a type. Tags are not filtered. -/
def conditions (d : Descriptor) (f : Filters) : List Condition :=
  if d.entityType = .hashtag then [] else filterConditions f

/-- The kinds to which a statement for a type is restricted. -/
def kindRestriction (d : Descriptor) : List Int :=
  if d.entityType = .hashtag then [] else d.kinds

/-! ## Statements -/

/-- A statement with its parameters from the first filter on. -/
structure Statement where
  text : Text
  parameters : List Parameter
  deriving Repr, DecidableEq

/-- The text of conditions whose placeholders are numbered from a number on. -/
def conditionsText : Nat → List Condition → Text
  | _, [] => []
  | number, c :: rest => " AND " ++ c.text number ++ conditionsText (number + 1) rest

/-- The text of the restriction to kinds. -/
def kindsText (kinds : List Int) : String :=
  if kinds.isEmpty then ""
  else " AND d.kind IN (" ++ ", ".intercalate (kinds.map toString) ++ ")"

/-- The restrictions of a statement that has `used` placeholders before them. -/
def restrictions (d : Descriptor) (f : Filters) (used : Nat) : Statement :=
  ⟨kindsText (kindRestriction d) ++ conditionsText (used + 1) (conditions d f),
    (conditions d f).map Condition.parameter⟩

/-- The searchable text of a row: its fields one after the other. -/
def documentText (d : Descriptor) : Text :=
  "concat_ws(' ', " ++ Text.join ", " (d.fields.map fun name => "d." ++ name) ++ ")"

/-- The lines in which a statement names the table of a type with its engagement counters. -/
def source (d : Descriptor) : List Text :=
  ["        FROM " ++ d.index ++ " d",
    "        LEFT JOIN engagement_stats s ON s.entity_id = d.entity_id"]

/-- The search in one index: the first placeholder is the full-text query, the second the
limit. -/
def searchStatement (d : Descriptor) (f : Filters) : Statement :=
  let document := documentText d
  let restricted := restrictions d f 2
  let selected : List Text := ["",
    "        SELECT d.entity_id,",
    "               d.created_at,",
    "               ts_rank(to_tsvector('simple', " ++ document
      ++ "), to_tsquery('simple', $1)) AS rank,",
    "               ts_headline('simple', " ++ document ++ ", to_tsquery('simple', $1),",
    "                           'StartSel=<mark>, StopSel=</mark>, MaxFragments=1, "
      ++ "MaxWords=24') AS snippet"]
  let matched : List Text := [
    "        WHERE to_tsvector('simple', " ++ document ++ ") @@ to_tsquery('simple', $1)",
    "    "]
  ⟨Text.join "\n" (selected ++ source d ++ matched) ++ restricted.text
      ++ " ORDER BY rank DESC, d.created_at DESC LIMIT $2",
    restricted.parameters⟩

/-- The check which of some entities pass the filters: the first placeholder is the list of
ids. -/
def matchStatement (d : Descriptor) (f : Filters) : Statement :=
  let restricted := restrictions d f 1
  let selected : List Text := ["", "        SELECT d.entity_id"]
  let matched : List Text := ["        WHERE d.entity_id = ANY($1::text[])", "    "]
  ⟨Text.join "\n" (selected ++ source d ++ matched) ++ restricted.text, restricted.parameters⟩

end EntitySearch.Sql
