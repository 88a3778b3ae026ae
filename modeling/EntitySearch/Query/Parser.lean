import EntitySearch.Query.Basic
import EntitySearch.Number.Reading
import EntitySearch.Text.Lowercase
/-!
# The search string

A search string is cut at blanks into tokens. A token that begins with the name of a directive sets
a filter or the entity type, and every other token is a free term. The directives are tried in the
order of `Directive.ofToken`; a numeric directive without a proper number is dropped. Reading never
fails.
-/

namespace EntitySearch.Query

/-- The filters with a numeric value. -/
inductive NumericFilter where
  | kind | minLikes | minLoops | since | til
  deriving Repr, DecidableEq

/-- What one token of a search string says. -/
inductive Directive where
  | entityType (name : Text)
  | author (name : Text)
  | hashtag (tag : Text)
  | number (filter : NumericFilter) (n : Int)
  | term (text : Text)
  /-- A directive without a proper value. -/
  | dropped
  deriving Repr, DecidableEq

/-- What follows a word at the front of a token. -/
def after? (word token : Text) : Option Text :=
  if word.isPrefixOf token then some (token.drop word.length) else none

/-- The number that an optional sign and digits of any script spell, if the digits are not too
many. -/
def integer? (text : Text) : Option Int :=
  let (negative, digits) := Number.splitSign text
  match digits.mapM Text.digitValue? with
  | none | some [] => none
  | some values =>
    if Number.maxDigits < values.length then none
    else some (if negative then -(Text.ofDigits values : Int) else Text.ofDigits values)

/-- A number that is not negative. -/
def natural? (text : Text) : Option Int := (integer? text).filter (0 ≤ ·)

/-- A numeric directive, dropped without a proper number. -/
def numeric (filter : NumericFilter) (value : Option Int) : Directive :=
  match value with
  | some n => .number filter n
  | none => .dropped

/-- What a token says. -/
def Directive.ofToken (token : Text) : Directive :=
  if let some rest := after? "type:" token then .entityType rest
  else if let some rest := after? "author:" token then .author rest
  else if let some rest := after? "kind:" token then numeric .kind (integer? rest)
  else if let some rest := after? "#" token then
    match Text.lower rest with
    | [] => .dropped
    | tag => .hashtag tag
  else if let some rest := after? "min_likes:" token then numeric .minLikes (natural? rest)
  else if let some rest := after? "min_loops:" token then numeric .minLoops (natural? rest)
  else if let some rest := after? "since:" token then numeric .since (integer? rest)
  else if let some rest := after? "until:" token then numeric .til (integer? rest)
  else .term token

/-- Sets a numeric filter. -/
def setNumber (f : Filters) (filter : NumericFilter) (n : Int) : Filters :=
  match filter with
  | .kind => { f with kind := .value n }
  | .minLikes => { f with minLikes := .value n }
  | .minLoops => { f with minLoops := .value n }
  | .since => { f with since := .value n }
  | .til => { f with til := .value n }

/-- A query with one more directive. Of directives that set the same thing the last one counts;
terms and tags are collected in order. -/
def extend (q : Query) : Directive → Query
  | .entityType name => { q with entityType := some name }
  | .author name => { q with filters := { q.filters with author := .value name } }
  | .hashtag tag =>
    { q with filters := { q.filters with hashtags := some (q.hashtags ++ [tag]) } }
  | .number filter n => { q with filters := setNumber q.filters filter n }
  | .term text => { q with terms := q.terms ++ [text] }
  | .dropped => q

/-- The tokens of a search string. -/
def tokenize (raw : Text) : List Text := Text.splitBlank raw

/-- The directives of a search string. -/
def directives (raw : Text) : List Directive := (tokenize raw).map Directive.ofToken

/-- The query that a search string spells. -/
def parse (raw : Text) : Query := (directives raw).foldl extend { raw := raw }

end EntitySearch.Query
