import EntitySearch.Ledger
import EntitySearch.Json.Value
import EntitySearch.Text.Uppercase
/-!
# Structured logging

An event is logged if its level reaches the threshold. Its line holds the context that is bound to
every line, the fields of the event, which win over the context, and the names of its level and its
logger, which win over everything. Some names are taken by the logger itself: a context or an event
that uses them is not accepted, whether or not the event would be logged. One more name would have
to hold a record of the system's own and can only be null.
-/

namespace EntitySearch.Log

/-- The levels of events. -/
inductive Level where
  | debug | info | warning | error | critical
  deriving Repr, DecidableEq

/-- The name of a level. -/
def Level.name : Level → String
  | debug => "debug"
  | info => "info"
  | warning => "warning"
  | error => "error"
  | critical => "critical"

/-- The weight of a level. -/
def Level.weight : Level → Nat
  | debug => 10
  | info => 20
  | warning => 30
  | error => 40
  | critical => 50

/-- The level of a name. -/
def Level.ofName? (name : Text) : Option Level :=
  [Level.debug, .info, .warning, .error, .critical].find? (fun l => l.name == name)

/-- Why logging is not set up, or an event not accepted. -/
inductive LogError where
  /-- The name of the threshold belongs to a text that is no level. -/
  | unknownLevel
  /-- The name of the threshold belongs to something that cannot be a level. -/
  | noLevel
  /-- A name is taken. -/
  | nameTaken
  /-- A value stands where a record of the system is expected. -/
  | noRecord
  deriving Repr, DecidableEq

/-- The weights of thresholds by name. -/
def thresholds : List (Text × Nat) :=
  [("NOTSET", 0), ("DEBUG", 10), ("INFO", 20), ("WARN", 30), ("WARNING", 30), ("ERROR", 40),
    ("FATAL", 50), ("CRITICAL", 50)]

/-- The names among those of thresholds that belong to something else. -/
def otherNames : List (Text × LogError) :=
  [("BASIC_FORMAT", .unknownLevel), ("_STYLES", .noLevel)]

/-- The weight of a threshold whose name is given in any case; unknown names mean `INFO`. -/
def threshold (name : Text) : Except LogError Nat :=
  match otherNames.lookup (Text.upper name) with
  | some error => throw error
  | none => pure ((thresholds.lookup (Text.upper name)).getD Level.info.weight)

/-- An event with its fields. An event without a text is null. -/
structure Event where
  level : Level
  logger : Text
  text : Json
  fields : List (Text × Json) := []

/-- The names that no field of an event may have. -/
def takenFields : List Text := ["self", "method_name", "event"]

/-- Whether the names of an event's fields are free: none is taken, and none occurs twice. -/
def Event.hasFreeNames (e : Event) : Bool :=
  let names := e.fields.map Prod.fst
  !names.any takenFields.contains && names.eraseDups.length == names.length

/-- How lines are written: the threshold and the context of every line. -/
structure Configuration where
  threshold : Nat
  context : List (Text × Json)

/-- The names that the context may not use besides that of the service. -/
def takenContext : List Text := ["service_name", "log_level", "log_format"]

/-- The configuration for a service: its name is part of the context. -/
def configure (service level : Text) (extra : List (Text × Json)) :
    Except LogError Configuration := do
  if extra.any (fun e => takenContext.contains e.1) then throw .nameTaken
  let weight ← threshold level
  if extra.any (fun e => e.1 == "service") then throw .nameTaken
  pure ⟨weight, ("service", .text service) :: extra⟩

/-- The name of the logger above all others, which has no name of its own. -/
def rootLogger : Text := "root"

/-- The name under which only a record of the system may stand. -/
def recordName : String := "_record"

/-- What an event says in a context, without the names of its level and its logger. -/
def content (c : Configuration) (e : Event) : Ledger Text Json :=
  Ledger.ofEntries (c.context ++ e.fields ++ match e.text with
    | .atom .null => []
    | text => [("event", text)])

/-- The line of an event. -/
def line (c : Configuration) (e : Event) : Except LogError Json :=
  let said := content c e
  let logger := if e.logger.isEmpty then rootLogger else e.logger
  match said.get? recordName with
  | none | some (.atom .null) =>
    pure (.obj ((said.put "level" (.text e.level.name)).put "logger" (.text logger)))
  | some _ => throw .noRecord

/-- Accepts an event; there is a line for it if it reaches the threshold. -/
def line? (c : Configuration) (e : Event) : Except LogError (Option Json) := do
  if e.hasFreeNames then
    let said ← line c e
    pure (if c.threshold ≤ e.level.weight then some said else none)
  else throw .nameTaken

/-- The lines of events, in order. -/
def lines (c : Configuration) (events : List Event) : Except LogError (List Json) := do
  pure ((← events.mapM (line? c)).filterMap id)

/-- The event that reports how long an operation took. -/
def performance (operation duration : Json) (fields : List (Text × Json)) : Event :=
  { level := .info, logger := "performance"
    text := .text ("Operation " ++ operation.display ++ " completed")
    fields := ("operation", operation) :: ("duration_ms", duration) :: fields }

end EntitySearch.Log
