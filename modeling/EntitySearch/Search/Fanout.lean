/-!
# Fanning a search out

Several jobs ask for a place, of which there may be a given number; those that find none wait in
line. When a job leaves, its place goes to the first in line. A `Fanout` takes what happens to jobs
in whatever order it comes, and keeps which jobs have begun and which have ended.
-/

namespace EntitySearch

/-- Jobs that have a place, counted, and those in line for one; and the jobs that have begun and
ended with the moments of both, latest first. -/
structure Fanout (ι : Type) where
  /-- How many places there are; nothing means enough for all. -/
  bound : Option Nat := none
  inside : Nat := 0
  line : List ι := []
  started : List (Float × ι) := []
  ended : List (Float × ι) := []
  deriving Repr

namespace Fanout

variable {ι : Type}

/-- Whether a job that asks for a place finds one. -/
def hasRoom (x : Fanout ι) : Bool :=
  match x.bound with
  | none => true
  | some b => decide (x.inside < b) && x.line.isEmpty

/-- A job takes a place that is free. -/
def enter (x : Fanout ι) : Fanout ι := { x with inside := x.inside + 1 }

/-- A job goes to the end of the line. -/
def queue (x : Fanout ι) (job : ι) : Fanout ι := { x with line := x.line ++ [job] }

/-- A job begins. -/
def start (x : Fanout ι) (now : Float) (job : ι) : Fanout ι :=
  { x with started := (now, job) :: x.started }

/-- A job ends and leaves its place, which goes to the first in line. -/
def leave (x : Fanout ι) (now : Float) (job : ι) : Option ι × Fanout ι :=
  let left := { x with ended := (now, job) :: x.ended }
  match x.line with
  | [] => (none, { left with inside := x.inside - 1 })
  | first :: line => (some first, { left with line := line })

/-- Whether a job has ended. -/
def hasEnded [DecidableEq ι] (x : Fanout ι) (job : ι) : Bool := x.ended.any fun e => e.2 = job

end Fanout

end EntitySearch
