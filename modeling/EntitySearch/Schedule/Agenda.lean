import EntitySearch.Schedule.Timers
/-!
# Work in rounds

Work that overlaps is done in rounds on a clock of its own. What is ready when a round begins is
done in order, and what it makes ready is for the next round. Between rounds the timers are looked
at: when nothing is ready the clock jumps to the first of them, and what was waiting for a moment
that has come is ready for the next round. Work itself takes no time.
-/

namespace EntitySearch

/-- What is to be done: now, and at moments to come. -/
structure Agenda (τ : Type) where
  now : Float
  timers : Timers τ := {}
  ready : List τ := []

namespace Agenda

variable {τ σ : Type}

/-- How many seconds too early a timer may go off. -/
def leeway : Float := 1e-9

/-- Makes something ready for the next round. -/
def soon (a : Agenda τ) (work : τ) : Agenda τ := { a with ready := a.ready ++ [work] }

/-- Sets a timer. -/
def wait (a : Agenda τ) (seconds : Float) (work : τ) : Agenda τ :=
  { a with timers := a.timers.push (a.now + seconds, work) }

/-- Lets something rest for a while. To rest for no time is to be ready for the next round. -/
def rest (a : Agenda τ) (seconds : Float) (work : τ) : Agenda τ :=
  if seconds ≤ 0 then a.soon work else a.wait seconds work

/-- Whether a timer goes off: its moment is not later than now, or by less than the leeway. -/
def isDue (now moment : Float) : Bool := !(decide (now < moment) && decide (now + leeway ≤ moment))

/-- The moment to which the clock jumps for a timer; it never goes back. -/
def jump (now moment : Float) : Float := if now < moment then moment else now

/-- How work is done: what each piece does, which timers no longer matter, and when all is over. -/
structure Work (σ τ : Type) where
  act : τ → σ × Agenda τ → σ × Agenda τ
  isStale : σ → τ → Bool
  isOver : σ → Bool

/-- The agenda at the beginning of a round, and what goes off in it. -/
def advance (stale : τ → Bool) (a : Agenda τ) : List τ × Agenda τ :=
  let live := (a.timers.takeWhile fun entry => stale entry.2).2
  let now := match a.ready, live.first? with
    | [], some entry => jump a.now entry.1
    | _, _ => a.now
  let (due, later) := live.takeWhile fun entry => isDue now entry.1
  (due.map Prod.snd, { a with now := now, timers := later })

/-- A round. -/
def round (w : Work σ τ) (x : σ × Agenda τ) : σ × Agenda τ :=
  let (due, agenda) := x.2.advance (w.isStale x.1)
  let start := (x.1, { agenda with ready := [] })
  let (s, after) := agenda.ready.foldl (fun x work => w.act work x) start
  (s, { after with ready := after.ready ++ due })

/-- Whether nothing is left to do. -/
def isEmpty (a : Agenda τ) : Bool := a.ready.isEmpty && a.timers.entries.isEmpty

/-- Rounds until all is over or nothing is left to do, and at most so many. -/
def run (w : Work σ τ) : Nat → σ × Agenda τ → σ × Agenda τ
  | 0, x => x
  | n + 1, x => if w.isOver x.1 || x.2.isEmpty then x else run w n (round w x)

end Agenda

end EntitySearch
