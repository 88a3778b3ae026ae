import EntitySearch.Url.Address
/-!
# Request targets

A request target is a path with an optional query string. In a query string plus signs are blanks,
and of several values under one name the last counts.
-/

namespace EntitySearch.Url

/-- A name or value of a query string. -/
def queryText (text : List Char) : Text :=
  .ofChars (unescape (text.map fun c => if c = '+' then ' ' else c))

/-- The names with their values in a query string. -/
def parameters (query : List Char) : List (Text × Text) :=
  ((splitOn '&' query).filter (· ≠ [])).map fun part =>
    let (name, value) := Text.cutAt (· == '=') part
    (queryText name, queryText (value.getD []))

/-- A request target: the path in plain text and the query string as it was written. -/
structure Target where
  path : Text
  query : List Char

/-- The target of an address. -/
def Target.ofAddress (a : Address) : Target :=
  ⟨.ofChars (if a.path.isEmpty then ['/'] else unescape a.path), a.query.getD []⟩

/-- The last value under a name in a query string. -/
def Target.value? (t : Target) (name : Text) : Option Text :=
  ((parameters t.query).reverse.find? (fun e => e.1 == name)).map Prod.snd

end EntitySearch.Url
