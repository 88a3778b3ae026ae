import EntitySearch.Schedule.Activity
import EntitySearch.Schedule.Agenda
import EntitySearch.Search.Fanout
/-!
# The two sides of a search

A search has an index side, whose jobs look in the index, and may have a secondary source beside it.
Both begin together and run side by side on one agenda, and each is given up when the time limit has
passed. `Race.act` says what each turn does; `Race.run` is the whole search. Only the times of jobs
and activities matter here, not what they find.
-/

namespace EntitySearch

/-- What takes its turn in a search. -/
inductive Turn (ι : Type) where
  /-- The index side begins. -/
  | openIndex
  /-- A job asks for a place. -/
  | ask (job : ι)
  /-- A job has been given a place. -/
  | enter (job : ι)
  /-- A job ends. -/
  | finish (job : ι)
  /-- The time limit of the index side has passed. -/
  | closeIndex
  /-- The index side has broken off. -/
  | breakOff
  /-- The source is asked. -/
  | openSource
  /-- The source goes on. -/
  | proceed
  /-- The time limit of the source has passed. -/
  | closeSource
  deriving Repr, DecidableEq

/-- What a search sets out with. -/
structure RacePlan (ι : Type) where
  /-- The jobs, each with the number of seconds for which it rests; none at all if that is zero. -/
  jobs : List (ι × Float)
  /-- How many jobs may run at once. -/
  bound : Option Nat := none
  /-- Whether the jobs begin with the index side itself and not in a round of their own. -/
  direct : Bool := false
  /-- The time limit of each side, in seconds. -/
  timeout : Option Float := none
  /-- Whether the index side breaks off as it begins. -/
  fails : Bool := false
  /-- Whether the end of a job breaks the search off. -/
  breaksOff : ι → Bool := fun _ => false

/-- Where a source stands, and what it does when it goes on; nothing if it has ended or is given
up. -/
structure SourceSide (ρ : Type) where
  stage : ρ
  next : Option (Float → Activity ρ)

/-- The state of a search. -/
structure Race (ι ρ : Type) where
  fanout : Fanout ι
  /-- Whether the index side is still at work. -/
  indexOpen : Bool := true
  source : Option (SourceSide ρ) := none
  broken : Bool := false

namespace Race

variable {ι ρ : Type} [DecidableEq ι]

/-- A search and its agenda. -/
abbrev State (ι ρ : Type) : Type := Race ι ρ × Agenda (Turn ι)

/-- Whether the source is still at work. -/
def sourceOpen (x : Race ι ρ) : Bool :=
  match x.source with
  | some side => side.next.isSome
  | none => false

/-- How long a job rests. -/
def pauseOf (p : RacePlan ι) (job : ι) : Float :=
  ((p.jobs.find? fun entry => entry.1 = job).map Prod.snd).getD 0

/-- A job ends, and the first in line takes its place. The index side ends with its last job. -/
def finish (p : RacePlan ι) (job : ι) (x : State ι ρ) : State ι ρ :=
  let (called, fanout) := x.1.fanout.leave x.2.now job
  let agenda := match called with
    | some other => x.2.soon (.enter other)
    | none => x.2
  ({ x.1 with
      fanout := fanout
      indexOpen := decide (fanout.ended.length < p.jobs.length) },
    if p.breaksOff job then agenda.soon .breakOff else agenda)

/-- A job that has its place begins, and ends at once if it need not rest. -/
def enter (p : RacePlan ι) (job : ι) (x : State ι ρ) : State ι ρ :=
  let race := { x.1 with fanout := x.1.fanout.start x.2.now job }
  let pause := pauseOf p job
  if pause == 0 then finish p job (race, x.2) else (race, x.2.rest pause (.finish job))

/-- A job asks for a place. -/
def ask (p : RacePlan ι) (job : ι) (x : State ι ρ) : State ι ρ :=
  if x.1.fanout.hasRoom then enter p job ({ x.1 with fanout := x.1.fanout.enter }, x.2)
  else ({ x.1 with fanout := x.1.fanout.queue job }, x.2)

/-- The index side begins: its jobs are made ready, and its time limit is set. -/
def openIndex (p : RacePlan ι) (x : State ι ρ) : State ι ρ :=
  if p.fails then ({ x.1 with indexOpen := false }, x.2.soon .breakOff)
  else if p.jobs.isEmpty then ({ x.1 with indexOpen := false }, x.2)
  else
    let agenda := match p.timeout with
      | some seconds => x.2.wait seconds .closeIndex
      | none => x.2
    if p.direct then p.jobs.foldl (fun x entry => ask p entry.1 x) (x.1, agenda)
    else (x.1, p.jobs.foldl (fun a entry => a.soon (.ask entry.1)) agenda)

/-- The source goes on. -/
def proceed (x : State ι ρ) : State ι ρ :=
  match x.1.source with
  | some ⟨_, some next⟩ =>
    match next x.2.now with
    | .ended stage => ({ x.1 with source := some ⟨stage, none⟩ }, x.2)
    | .waits stage seconds later =>
      ({ x.1 with source := some ⟨stage, some later⟩ }, x.2.rest seconds .proceed)
  | _ => x

/-- The source is asked, at once if there is no time limit. -/
def openSource (p : RacePlan ι) (x : State ι ρ) : State ι ρ :=
  match p.timeout with
  | none => proceed x
  | some seconds => (x.1, (x.2.wait seconds .closeSource).soon .proceed)

/-- What a turn does. On a side that is no longer at work it does nothing. -/
def act (p : RacePlan ι) (turn : Turn ι) (x : State ι ρ) : State ι ρ :=
  match turn with
  | .openIndex => openIndex p x
  | .ask job => if x.1.indexOpen then ask p job x else x
  | .enter job => if x.1.indexOpen then enter p job x else x
  | .finish job => if x.1.indexOpen then finish p job x else x
  | .closeIndex => ({ x.1 with indexOpen := false }, x.2)
  | .breakOff => ({ x.1 with broken := true }, x.2)
  | .openSource => openSource p x
  | .proceed => proceed x
  | .closeSource =>
    ({ x.1 with source := x.1.source.map fun side => { side with next := none } }, x.2)

/-- Whether a timer is set for a side that is no longer at work. -/
def isStale (x : Race ι ρ) : Turn ι → Bool
  | .ask _ | .enter _ | .finish _ | .closeIndex => !x.indexOpen
  | .proceed | .closeSource => !x.sourceOpen
  | .openIndex | .breakOff | .openSource => false

/-- A search is over when neither side is at work any more, or when it has been broken off. -/
def isOver (x : Race ι ρ) : Bool := x.broken || !(x.indexOpen || x.sourceOpen)

/-- How the turns of a search are done. -/
def work (p : RacePlan ι) : Agenda.Work (Race ι ρ) (Turn ι) := ⟨act p, isStale, isOver⟩

/-- How many rounds a search can take: each of them has a turn or a timer. -/
def rounds (p : RacePlan ι) (waits : Nat) : Nat := 4 * p.jobs.length + 2 * waits + 8

/-- A search from a moment on, with a source that waits at most so often; also says when it is
over. -/
def run (p : RacePlan ι) (source : Option (SourceSide ρ)) (waits : Nat) (now : Float) :
    Race ι ρ × Float :=
  let turns := match source with
    | some _ => [.openIndex, .openSource]
    | none => [.openIndex]
  let (race, agenda) := Agenda.run (work p) (rounds p waits)
    ({ fanout := { bound := p.bound }, source := source }, { now := now, ready := turns })
  (race, agenda.now)

end Race

end EntitySearch
