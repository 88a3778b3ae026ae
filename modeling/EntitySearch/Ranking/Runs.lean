/-!
# Runs

A list that is to be sorted is cut into runs. A run is ascending, or else strictly descending and
then turned round. The items that follow a short run are put into it one by one, each at the place
that halving the run again and again leads to. The definitions also say what becomes of items that
cannot be compared.
-/

namespace EntitySearch.Runs

variable {β : Type}

/-- The items that go on from `last` without any being smaller than the one before it, and the
rest. -/
def ascending (less : β → β → Bool) (last : β) : List β → List β × List β
  | [] => ([], [])
  | b :: rest =>
    if less b last then ([], b :: rest)
    else
      let (run, later) := ascending less b rest
      (b :: run, later)

/-- The items that go on from `last` with each being smaller than the one before it, and the
rest. -/
def descending (less : β → β → Bool) (last : β) : List β → List β × List β
  | [] => ([], [])
  | b :: rest =>
    if less b last then
      let (run, later) := descending less b rest
      (b :: run, later)
    else ([], b :: rest)

/-- The run at the front of a list in ascending order, and the rest. -/
def first (less : β → β → Bool) : List β → List β × List β
  | a :: b :: rest =>
    if less b a then
      let (run, later) := descending less b rest
      ((a :: b :: run).reverse, later)
    else
      let (run, later) := ascending less b rest
      (a :: b :: run, later)
  | short => (short, [])

/-- The first place between two others that is not `before` something, as halving finds it in at
most `fuel` steps. -/
def halve (before : Nat → Bool) : (fuel low high : Nat) → Nat
  | 0, _, high => high
  | fuel + 1, low, high =>
    if low < high then
      let middle := low + (high - low) / 2
      if before middle then halve before fuel (middle + 1) high else halve before fuel low middle
    else high

/-- Puts an item into a run, behind those that it is not smaller than. -/
def insert (less : β → β → Bool) (run : List β) (x : β) : List β :=
  let i := halve (fun i => !run[i]?.any (less x)) run.length 0 run.length
  run.take i ++ x :: run.drop i

/-- The next run, filled up with the items behind it to a least length, and the rest. -/
def next (less : β → β → Bool) (least : Nat) (items : List β) : List β × List β :=
  let (run, rest) := first less items
  let missing := least - run.length
  ((rest.take missing).foldl (insert less) run, rest.drop missing)

/-- Halves a length until it is below 64; an odd remainder counts as one more in the end. -/
def leastLengthFrom (odd : Bool) : (fuel n : Nat) → Nat
  | 0, n => n
  | fuel + 1, n =>
    if n < 64 then n + odd.toNat else leastLengthFrom (odd || n % 2 == 1) fuel (n / 2)

/-- The least length of runs in a list of a length. -/
def leastLength (n : Nat) : Nat := leastLengthFrom false (n + 1) n

end EntitySearch.Runs
