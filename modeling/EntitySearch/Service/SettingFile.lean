import EntitySearch.Ledger
import EntitySearch.Text.Blank
import EntitySearch.Text.Encoding
/-!
# Files of settings

A file of settings sets one name in a line. A value may stand between quotes, where it may go on
over several lines, and a comment may follow it. In a value, a name in braces behind a dollar sign
stands for the value of that name, which an earlier line or the environment has set. A line that
cannot be read is left out.
-/

namespace EntitySearch.SettingFile

/-! ## Lines -/

/-- Whether a character is a blank inside a line. -/
def isLineBlank (c : CodePoint) : Bool := Text.isBlank c && c != '\n'

/-- The text from the first character that is no blank inside a line. -/
def skipLineBlanks (text : Text) : Text := text.dropWhile isLineBlank

/-- The text after the end of the line. -/
def nextLine (text : Text) : Text := (text.dropWhile (fun c : CodePoint => c != '\n')).drop 1

/-- The text after a line of which only a comment is left; nothing if more than that is left. -/
def endLine? (text : Text) : Option Text :=
  match skipLineBlanks text with
  | [] => some []
  | .char '\n' :: rest => some rest
  | .char '#' :: rest => some (nextLine rest)
  | _ => none

/-! ## Quoted text -/

/-- The text up to the closing quote, and the text after it. A backslash and the character behind it
belong together, so that a quote behind a backslash does not close. -/
def untilQuote (quote : CodePoint) : Text → Option (Text × Text)
  | [] => none
  | .char '\\' :: c :: rest =>
    (untilQuote quote rest).map fun (inside, after) => ('\\' :: c :: inside, after)
  | c :: rest =>
    if c = quote then some ([], rest)
    else (untilQuote quote rest).map fun (inside, after) => (c :: inside, after)

/-- The control characters that have an escape between double quotes. -/
def namedEscapes : List (CodePoint × CodePoint) :=
  [('a', '\x07'), ('b', '\x08'), ('f', '\x0c'), ('n', '\n'), ('r', '\r'), ('t', '\t'),
    ('v', '\x0b')]

/-- The character that an escape stands for. -/
def escaped? (double : Bool) (c : CodePoint) : Option CodePoint :=
  if c = '\\' ∨ c = '\'' ∨ (double ∧ c = '"') then some c
  else if double then namedEscapes.lookup c
  else none

/-- Quoted text with its escapes resolved. -/
def unescape (double : Bool) : Text → Text
  | [] => []
  | .char '\\' :: c :: rest =>
    match escaped? double c with
    | some d => d :: unescape double rest
    | none => '\\' :: unescape double (c :: rest)
  | c :: rest => c :: unescape double rest

/-! ## Bindings -/

/-- A value without quotes: it ends before blanks with a number sign behind them. -/
def untilComment : Text → Text
  | [] => []
  | c :: rest =>
    if isLineBlank c && (skipLineBlanks rest).head? = some (.char '#') then []
    else c :: untilComment rest

/-- The value at the front of a text that stands behind an equals sign, and the text behind it.
Blanks around a value without quotes are no part of it. -/
def readValue (text : Text) : Option (Text × Text) :=
  match skipLineBlanks text with
  | .char '\'' :: rest => (untilQuote '\'' rest).map fun (v, after) => (unescape false v, after)
  | .char '"' :: rest => (untilQuote '"' rest).map fun (v, after) => (unescape true v, after)
  | _ =>
    let line := text.takeWhile (fun c : CodePoint => c != '\n')
    some (Text.strip (untilComment line), text.drop line.length)

/-- The text without a word that says that the name is meant for other programs, too. -/
def skipExport (text : Text) : Text :=
  match text with
  | .char 'e' :: .char 'x' :: .char 'p' :: .char 'o' :: .char 'r' :: .char 't' :: c :: rest =>
    if isLineBlank c then skipLineBlanks rest else text
  | _ => text

/-- The name at the front of a text, which may stand between single quotes. -/
def readName (text : Text) : Option (Text × Text) :=
  match text with
  | .char '\'' :: rest =>
    let name := rest.takeWhile (fun c : CodePoint => c != '\'')
    if name.isEmpty ∨ name.length = rest.length then none
    else some (name, rest.drop (name.length + 1))
  | _ =>
    let name := text.takeWhile fun c : CodePoint => c != '=' && c != '#' && !Text.isBlank c
    if name.isEmpty then none else some (name, text.drop name.length)

/-- What a line binds, if anything, and the text after it. -/
def readBinding (text : Text) : Option (Text × Option Text) × Text :=
  let text := skipExport text
  match text with
  | .char '#' :: rest => (none, nextLine rest)
  | _ =>
    match readName text with
    | none => (none, nextLine text)
    | some (name, rest) =>
      let rest := skipLineBlanks rest
      match rest with
      | .char '=' :: rest =>
        match readValue rest with
        | none => (none, nextLine rest)
        | some (value, after) =>
          match endLine? after with
          | some later => (some (name, some value), later)
          | none => (none, nextLine after)
      | _ =>
        match endLine? rest with
        | some later => (some (name, none), later)
        | none => (none, nextLine rest)

/-- The bindings of a text, for at most `fuel` lines. -/
def readBindings : Nat → Text → List (Text × Option Text)
  | 0, _ => []
  | fuel + 1, text =>
    match text.dropWhile Text.isBlank with
    | [] => []
    | start =>
      let (binding, rest) := readBinding start
      binding.toList ++ readBindings fuel rest

/-! ## Values that refer to names -/

/-- A reference at the front of a text whose dollar sign and brace have been read: its name, what
stands in for a missing value, and the text behind it. -/
def readReference (text : Text) : Option (Text × Text × Text) :=
  let name := text.takeWhile fun c : CodePoint => c != '\x7d' && c != ':'
  match text.drop name.length with
  | .char '\x7d' :: rest => some (name, [], rest)
  | .char ':' :: .char '-' :: rest =>
    let standIn := rest.takeWhile (fun c : CodePoint => c != '\x7d')
    match rest.drop standIn.length with
    | _ :: after => some (name, standIn, after)
    | [] => none
  | _ => none

/-- A value with the names that it refers to replaced, for at most `fuel` characters. -/
def resolve (valueOf : Text → Option (Option Text)) : Nat → Text → Text
  | 0, text => text
  | _, [] => []
  | fuel + 1, .char '$' :: .char '\x7b' :: rest =>
    match readReference rest with
    | none => '$' :: resolve valueOf fuel ('\x7b' :: rest)
    | some (name, standIn, after) =>
      let value := match valueOf name with
        | none => standIn
        | some v => v.getD []
      value ++ resolve valueOf fuel after
  | fuel + 1, c :: rest => c :: resolve valueOf fuel rest

/-- One more binding after earlier ones, in an environment. -/
def extend (environment : List (Text × Text)) (earlier : Ledger Text (Option Text))
    (binding : Text × Option Text) : Ledger Text (Option Text) :=
  let valueOf := fun name =>
    (earlier.get? name).or ((Ledger.get? environment name).map some)
  earlier.put binding.1 (binding.2.map fun value => resolve valueOf (value.length + 1) value)

/-- A text in which every line ends with the same character. -/
def normalizeLines : Text → Text
  | [] => []
  | .char '\r' :: .char '\n' :: rest => '\n' :: normalizeLines rest
  | c :: rest => (if c = '\r' then '\n' else c) :: normalizeLines rest

/-- The names that a file of settings sets in an environment, with their values. A byte order mark
at the front of the file is no part of it. -/
def read (environment : List (Text × Text)) (text : Text) : Ledger Text (Option Text) :=
  let normal := normalizeLines (Text.dropMark text)
  (readBindings (normal.length + 1) normal).foldl (extend environment) []

end EntitySearch.SettingFile
