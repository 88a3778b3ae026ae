import EntitySearch.Number.Reading
import EntitySearch.Service.Metrics
/-!
# Published counts

Samples are published as text, a line for each, and whoever watches the service reads that text
back, line by line: what stands in front of the last space is a series, the word behind it a value.
A label may hold a character that ends a line, so a sample can be read back as several lines, of
which only the last carries the sample's value. Lines that begin with a number sign are comments.
-/

namespace EntitySearch.Exposition

/-- Why published counts are not read back. -/
inductive ReadError where
  /-- A label is not well formed, so nothing is published. -/
  | notUnicode
  /-- A line does not end in a number. -/
  | notALine
  /-- A value is undefined or infinite. -/
  | arithmetic (cause : Number.ArithmeticError)
  deriving Repr, DecidableEq

/-- The code points that end a line, as ascending ranges. -/
def lineEnds : List (Nat × Nat) :=
  [(0xA, 0xD), (0x1C, 0x1E), (0x85, 0x85), (0x2028, 0x2029)]

/-- Whether a code point ends a line. -/
def endsLine (c : CodePoint) : Bool := Text.inRanges lineEnds c.code

/-- Whether a line says nothing. -/
def isComment (line : Text) : Bool := line.isEmpty || line.head? == some (.char '#')

/-- Whether a text stands somewhere in another. -/
def occursIn (word : Text) : Text → Bool
  | [] => word.isEmpty
  | c :: rest => word.isPrefixOf (c :: rest) || occursIn word rest

/-- Whether a series is one of those that are left out. -/
def isLeftOut (leftOut : List Text) (series : Text) : Bool :=
  leftOut.any fun word => occursIn word series

/-- What a line within a series says. -/
def readLine (leftOut : List Text) (line : Text) : Except ReadError (Option Metrics.Sample) :=
  if isComment line then pure none
  else
    match Text.cutAtLast ' ' line with
    | none => throw .notALine
    | some (series, value) =>
      if isLeftOut leftOut series then pure none
      else
        match Number.readFloat? value with
        | some x => pure (some (series, x))
        | none => throw .notALine

/-- The value of a sample: a whole number if it is one. -/
def valueOf (x : Float) : Except ReadError Json :=
  match Number.truncateFloat x with
  | .error e => throw (.arithmetic e)
  | .ok n => pure (if Number.compareIntFloat n x == some .eq then .int n else .float x)

/-- Enters what a line says. -/
def enter (read : Ledger Text Json) : Option Metrics.Sample → Except ReadError (Ledger Text Json)
  | none => pure read
  | some (series, x) => do pure (read.put series (← valueOf x))

/-- Enters what the lines of a sample say. -/
def enterSample (leftOut : List Text) (read : Ledger Text Json) (sample : Metrics.Sample) :
    Except ReadError (Ledger Text Json) := do
  let lines := Text.splitWhere endsLine sample.1
  let read ← lines.dropLast.foldlM (fun read line => do enter read (← readLine leftOut line)) read
  let last := lines.getLastD []
  enter read (if isComment last || isLeftOut leftOut last then none else some (last, sample.2))

/-- Whether all series are well formed, so that they can be published. -/
def isPublishable (m : Metrics) : Bool := m.samples.all fun sample => Text.isWellFormed sample.1

/-- The published counts as they are read back, without the series in which one of some words
occurs. -/
def read (leftOut : List Text) (m : Metrics) : Except ReadError (Ledger Text Json) :=
  if isPublishable m then m.samples.foldlM (enterSample leftOut) [] else throw .notUnicode

/-- The word in series that say when a count began. -/
def creation : Text := "_created"

/-- The word in series that say how long things lasted. -/
def duration : Text := "_duration_seconds"

end EntitySearch.Exposition
