/-!
# Timers

What waits for its moment stands in a binary heap: below the entry at a place `i` are those at
`2 * i + 1` and `2 * i + 2`, and none is before the one above it. The order is that of `<` on
doubles. A moment that is not a number is neither before nor after any other, so what waits for it
keeps the place to which the others have moved it, and is taken when it stands at the root.
-/

namespace EntitySearch

/-- Entries that wait, each with its moment, in the order of a heap. -/
structure Timers (τ : Type) where
  entries : Array (Float × τ) := #[]

namespace Timers

variable {τ : Type}

/-- The entry at a place rises as long as it is before the one above it. -/
def rise (a : Array (Float × τ)) (i : Nat) : Array (Float × τ) :=
  if i = 0 then a
  else
    match a[i]?, a[(i - 1) / 2]? with
    | some entry, some above =>
      if entry.1 < above.1 then rise (a.swapIfInBounds i ((i - 1) / 2)) ((i - 1) / 2) else a
    | _, _ => a
termination_by i

/-- The place below another at which the earlier of the two entries stands; the right one unless the
left one is before it. -/
def earlier (a : Array (Float × τ)) (i : Nat) : Nat :=
  match a[2 * i + 1]?, a[2 * i + 2]? with
  | some left, some right => if left.1 < right.1 then 2 * i + 1 else 2 * i + 2
  | _, _ => 2 * i + 1

theorem lt_earlier (a : Array (Float × τ)) (i : Nat) : i < earlier a i := by
  unfold earlier
  split
  · split <;> omega
  · omega

/-- The entry at a place sinks to where nothing is below it, the earlier entry below taking its
place each time; also says where it has come to. -/
def sink (a : Array (Float × τ)) (i : Nat) : Array (Float × τ) × Nat :=
  if 2 * i + 1 < a.size then sink (a.swapIfInBounds i (earlier a i)) (earlier a i) else (a, i)
termination_by a.size - i
decreasing_by
  have := lt_earlier a i
  simp only [Array.size_swapIfInBounds]
  omega

/-- One more entry: it is put at the end and rises. -/
def push (t : Timers τ) (entry : Float × τ) : Timers τ :=
  ⟨rise (t.entries.push entry) t.entries.size⟩

/-- The entry at the root. -/
def first? (t : Timers τ) : Option (Float × τ) := t.entries[0]?

/-- Without the entry at the root. The last entry takes its place, sinks and rises again. -/
def dropFirst (t : Timers τ) : Timers τ :=
  match t.entries.back? with
  | none => t
  | some last =>
    let rest := t.entries.pop
    let (sunk, place) := sink (rest.setIfInBounds 0 last) 0
    ⟨rise sunk place⟩

/-- Takes entries from the root as long as they satisfy a test, and at most so many. -/
def takeUpTo (p : Float × τ → Bool) : Nat → Timers τ → List (Float × τ) × Timers τ
  | 0, t => ([], t)
  | n + 1, t =>
    match t.first? with
    | none => ([], t)
    | some entry =>
      if p entry then
        let (taken, rest) := takeUpTo p n t.dropFirst
        (entry :: taken, rest)
      else ([], t)

/-- Takes entries from the root as long as they satisfy a test. -/
def takeWhile (p : Float × τ → Bool) (t : Timers τ) : List (Float × τ) × Timers τ :=
  takeUpTo p t.entries.size t

end Timers

end EntitySearch
