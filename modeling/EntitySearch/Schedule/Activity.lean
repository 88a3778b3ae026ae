/-!
# Activities

An activity waits now and then and has ended at last. What it does after a wait depends on the
moment at which it goes on. `Activity.alone` is the activity by itself: nothing else is waited for.
-/

namespace EntitySearch

/-- Something that goes on for a while, with what can be said of it at each stage. -/
inductive Activity (ρ : Type) where
  | ended (stage : ρ)
  /-- It waits for a number of seconds and goes on from there. -/
  | waits (stage : ρ) (seconds : Float) (next : Float → Activity ρ)

namespace Activity

variable {ρ ρ' : Type}

/-- The stage that has been reached. -/
def stage : Activity ρ → ρ
  | ended s | waits s _ _ => s

/-- The same activity, with something else said of it. -/
def map (f : ρ → ρ') : Activity ρ → Activity ρ'
  | ended s => .ended (f s)
  | waits s seconds next => .waits (f s) seconds fun now => (next now).map f

/-- The moment after a wait. A number of seconds that is not above zero is no time. -/
def resumption (now seconds : Float) : Float := if 0 < seconds then now + seconds else now

/-- The last stage and the moment at which the activity ends, if it is at a stage at a moment and
nothing else is waited for. -/
def alone : Activity ρ → Float → ρ × Float
  | ended s, now => (s, now)
  | waits _ seconds next, now => (next (resumption now seconds)).alone (resumption now seconds)

end Activity

end EntitySearch
