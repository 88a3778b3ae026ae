import EntitySearch.Ranking.Merge
/-!
# Sorting by runs

A list is cut into runs, which wait to be merged. The place where two runs meet has a power: how
often the list must be halved until a cut comes between the middles of the two. A run that is found
makes waiting runs merge whose place has a greater power than its own. On keys that are totally
ordered this is a stable ascending sort. The definition also says what becomes of a list with keys
that cannot be compared.
-/

namespace EntitySearch.RunSort

variable {β : Type}

/-- A run that waits: where it begins, its items, and the power of the place where it meets the
next. -/
structure Run (β : Type) where
  start : Nat
  items : List β
  power : Nat := 0

/-- The runs that wait, the last one first, and how many wins in a row lead to galloping. -/
structure Pending (β : Type) where
  runs : List (Run β) := []
  wins : Nat := Merge.longStretch

/-- The first binary place in which two parts of a length differ, the greater one having a one
there. -/
def powerOf (length : Nat) : (fuel a b : Nat) → Nat
  | 0, _, _ => 0
  | fuel + 1, a, b =>
    if length ≤ a then powerOf length fuel (2 * (a - length)) (2 * (b - length)) + 1
    else if length ≤ b then 1
    else powerOf length fuel (2 * a) (2 * b) + 1

/-- The power of the place where a run meets the next, in a list of a length. -/
def power (length : Nat) (run : Run β) (next : Nat) : Nat :=
  let a := 2 * run.start + run.items.length
  powerOf length (length + 2) a (a + run.items.length + next)

/-- Two neighbouring runs as one. -/
def join (less : β → β → Bool) (wins : Nat) (left right : Run β) : Run β × Nat :=
  let (items, wins) := Merge.runs less wins left.items right.items
  ({ left with items := items }, wins)

/-- Merges the last runs as long as the place before the last one has a greater power. -/
def collapse (less : β → β → Bool) (power : Nat) : (fuel : Nat) → Pending β → Pending β
  | fuel + 1, ⟨last :: before :: rest, wins⟩ =>
    if power < before.power then
      let (joined, wins) := join less wins before last
      collapse less power fuel ⟨joined :: rest, wins⟩
    else ⟨last :: before :: rest, wins⟩
  | _, p => p

/-- Adds a run behind the others. -/
def push (less : β → β → Bool) (length : Nat) (p : Pending β) (run : Run β) : Pending β :=
  match p.runs with
  | [] => { p with runs := [run] }
  | last :: _ =>
    let power := power length last run.items.length
    let p := collapse less power p.runs.length p
    match p.runs with
    | [] => { p with runs := [run] }
    | last :: rest => { p with runs := run :: { last with power := power } :: rest }

/-- Finds the runs of a list from a place on, for at most `fuel` runs. -/
def find (less : β → β → Bool) (length : Nat) :
    (fuel start : Nat) → Pending β → List β → Pending β
  | fuel + 1, start, p, item :: items =>
    let (run, rest) := Runs.next less (Runs.leastLength length) (item :: items)
    find less length fuel (start + run.length) (push less length p ⟨start, run, 0⟩) rest
  | _, _, p, _ => p

/-- Merges all runs that wait. Of the last three the first two are merged if the first is shorter
than the last. -/
def finish (less : β → β → Bool) : (fuel : Nat) → Pending β → List β
  | fuel + 1, ⟨last :: middle :: before :: rest, wins⟩ =>
    if before.items.length < last.items.length then
      let (joined, wins) := join less wins before middle
      finish less fuel ⟨last :: joined :: rest, wins⟩
    else
      let (joined, wins) := join less wins middle last
      finish less fuel ⟨joined :: before :: rest, wins⟩
  | _, ⟨[last, before], wins⟩ => (join less wins before last).1.items
  | _, p => p.runs.reverse.flatMap Run.items

/-- The items in ascending order. -/
def sort (less : β → β → Bool) (items : List β) : List β :=
  let p := find less items.length items.length 0 {} items
  finish less p.runs.length p

end EntitySearch.RunSort
