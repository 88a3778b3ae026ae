import EntitySearch.Ranking.Runs
/-!
# Galloping

The place of an item in a run is found from a hint: strides that double go from there to the left or
to the right until they pass the place, and halving finds it between the last two.
-/

namespace EntitySearch.Gallop

variable {β : Type}

/-- The last two strides: the greater one is the first that does not go on or reaches the most. -/
def strides (goesOn : Nat → Bool) (most : Nat) : (fuel last stride : Nat) → Nat × Nat
  | 0, last, stride => (last, min stride most)
  | fuel + 1, last, stride =>
    if stride < most && goesOn stride then strides goesOn most fuel stride (2 * stride + 1)
    else (last, min stride most)

/-- The first of `length` places that is not `before` something, looked for from a hint. -/
def place (before : Nat → Bool) (length hint : Nat) : Nat :=
  if before hint then
    let (last, stride) := strides (fun k => before (hint + k)) (length - hint) length 0 1
    Runs.halve before length (hint + last + 1) (hint + stride)
  else
    let (last, stride) := strides (fun k => !before (hint - k)) (hint + 1) length 0 1
    Runs.halve before length (hint + 1 - stride) (hint - last)

/-- The place of an item in a run, behind those that it is not smaller than. -/
def placeAfter (less : β → β → Bool) (x : β) (run : Array β) (hint : Nat) : Nat :=
  place (fun i => !run[i]?.any (less x)) run.size hint

/-- The place of an item in a run, before those that are not smaller. -/
def placeBefore (less : β → β → Bool) (x : β) (run : Array β) (hint : Nat) : Nat :=
  place (fun i => run[i]?.any fun y => less y x) run.size hint

end EntitySearch.Gallop
