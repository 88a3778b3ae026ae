import EntitySearch.Schedule.Agenda
import EntitySearch.Semantic.Breaker
/-!
# Calls under a breaker

Calls that overlap are guarded by one breaker. `Traffic.step` takes their arrivals and ends in
whatever order they come, and `Traffic.log` says what happens to each. `Playback.run` plays calls
that are planned ahead by the clock.
-/

namespace EntitySearch

/-- How a call ends. -/
inductive CallEnd where
  | succeeded | failed | cancelled
  deriving Repr, DecidableEq

/-- What happens to calls: one arrives, or one that was let through ends. -/
inductive CallEvent where
  | arrive (call : Nat)
  | finish (call : Nat) (how : CallEnd)
  deriving Repr, DecidableEq

/-- A breaker with the calls that are running under it. -/
structure Traffic (τ : Type) where
  breaker : Breaker τ
  running : List Nat := []
  deriving Repr

namespace Traffic

variable {τ : Type} [Sub τ] [LE τ] [DecidableLE τ]

/-- The breaker when a call ends. A cancelled call leaves no trace. -/
def settle (b : Breaker τ) (now : τ) : CallEnd → Breaker τ
  | .succeeded => b.succeed
  | .failed => b.fail now
  | .cancelled => b

/-- Traffic after an event at a moment. The end of a call that is not running changes nothing. -/
def step (x : Traffic τ) (now : τ) : CallEvent → Traffic τ
  | .arrive call =>
    match x.breaker.accept now with
    | .ok b => ⟨b, call :: x.running⟩
    | .error _ => x
  | .finish call how =>
    if call ∈ x.running then ⟨settle x.breaker now how, x.running.erase call⟩ else x

/-- Traffic after a sequence of events with their moments. -/
def run (x : Traffic τ) (events : List (τ × CallEvent)) : Traffic τ :=
  events.foldl (fun x e => x.step e.1 e.2) x

end Traffic

/-- What a log says of a call. -/
inductive CallNote where
  | started
  | ended (how : CallEnd)
  | rejected (error : BreakerOpen)

/-- An entry of the log of calls, with the breaker after it. -/
structure CallEntry (τ : Type) where
  call : Nat
  time : τ
  note : CallNote
  breaker : Breaker τ

namespace Traffic

variable {τ : Type} [Sub τ] [LE τ] [DecidableLE τ]

/-- What the log says of an event. -/
def note? (x : Traffic τ) (now : τ) (event : CallEvent) : Option (Nat × CallNote) :=
  match event with
  | .arrive call => match x.breaker.accept now with
    | .ok _ => some (call, .started)
    | .error e => some (call, .rejected e)
  | .finish call how => if call ∈ x.running then some (call, .ended how) else none

/-- The log of a sequence of events with their moments. -/
def log (x : Traffic τ) : List (τ × CallEvent) → List (CallEntry τ)
  | [] => []
  | (now, event) :: rest =>
    let after := x.step now event
    match x.note? now event with
    | some (call, note) => ⟨call, now, note, after.breaker⟩ :: after.log rest
    | none => after.log rest

end Traffic

/-! ## Planned calls -/

/-- A call that is planned: after how many seconds it arrives, how long it lasts, and whether it
succeeds. -/
structure PlannedCall where
  arrival : Float
  duration : Float
  succeeds : Bool

/-- How a planned call ends. -/
def PlannedCall.ending (p : PlannedCall) : CallEnd := if p.succeeds then .succeeded else .failed

/-- Calls that are played, and the log of what has happened, latest first. -/
structure Playback where
  traffic : Traffic Float
  log : List (CallEntry Float) := []

namespace Playback

/-- Something happens to a call at a moment. -/
def record (x : Playback) (now : Float) (event : CallEvent) : Playback :=
  ⟨x.traffic.step now event, (x.traffic.log [(now, event)]).reverse ++ x.log⟩

/-- What an event does. A call that is let through and takes no time ends at once. -/
def act (plan : List PlannedCall) (event : CallEvent) (x : Playback × Agenda CallEvent) :
    Playback × Agenda CallEvent :=
  let after := x.1.record x.2.now event
  match event with
  | .finish _ _ => (after, x.2)
  | .arrive call =>
    match plan[call]? with
    | none => (after, x.2)
    | some p =>
      if call ∈ after.traffic.running then
        if p.duration == 0 then (after.record x.2.now (.finish call p.ending), x.2)
        else (after, x.2.rest p.duration (.finish call p.ending))
      else (after, x.2)

/-- The calls of a plan before any has arrived. -/
def agenda (plan : List PlannedCall) : Agenda CallEvent :=
  plan.zipIdx.foldl (fun a (p, call) => a.rest p.arrival (.arrive call)) { now := 0 }

/-- The log of a plan's calls. Each call has at most a timer and a turn for its arrival and for its
end. -/
def run (breaker : Breaker Float) (plan : List PlannedCall) : List (CallEntry Float) :=
  let (x, _) := Agenda.run ⟨act plan, fun _ _ => false, fun _ => false⟩ (4 * plan.length + 1)
    (⟨⟨breaker, []⟩, []⟩, agenda plan)
  x.log.reverse

end Playback

end EntitySearch
