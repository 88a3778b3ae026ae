import EntitySearch.Ranking.Gallop
/-!
# Merging runs

Two neighbouring runs are merged item by item, the left one first where items are equal. When one of
them has won often enough in a row, whole stretches are moved, found by galloping, as long as they
are long. How eager merging is to gallop changes on the way. The shorter run decides whether merging
goes upwards from the front or downwards from the back.
-/

namespace EntitySearch.Merge

variable {β : Type}

/-- What merging does next: compare items, where the two runs have won a number of times in a row,
or gallop. -/
inductive Phase where
  | compare (leftWins rightWins : Nat)
  | gallop

/-- A stretch of this length keeps galloping, and so many wins in a row lead to it at first. -/
def longStretch : Nat := 7

/-- How many wins in a row lead to galloping, after one more stretch. -/
def keener (wins : Nat) : Nat := if 1 < wins then wins - 1 else wins

/-- A list with items moved to its front in reverse. -/
def move (count : Nat) (source target : List β) : List β := (source.take count).reverseAux target

/-- The phase after two stretches and the number of wins that leads to galloping then. -/
def afterStretches (left right wins : Nat) : Phase × Nat :=
  if longStretch ≤ left || longStretch ≤ right then (.gallop, wins) else (.compare 0 0, wins + 1)

/-- Merges upwards, for at most `fuel` rounds; `merged` holds what has been merged, last first. When
a single item of the left run remains, it belongs to the end. -/
def upwards (less : β → β → Bool) :
    (fuel : Nat) → Phase → (wins : Nat) → (merged left right : List β) → List β × Nat
  | fuel + 1, .compare l r, wins, merged, x :: left, y :: right =>
    if less y x then
      if right.isEmpty then ((y :: merged).reverseAux (x :: left), wins)
      else if wins ≤ r + 1 then
        upwards less fuel .gallop (wins + 1) (y :: merged) (x :: left) right
      else upwards less fuel (.compare 0 (r + 1)) wins (y :: merged) (x :: left) right
    else if left.length = 1 then ((x :: merged).reverseAux (y :: right ++ left), wins)
    else if wins ≤ l + 1 then upwards less fuel .gallop (wins + 1) (x :: merged) left (y :: right)
    else upwards less fuel (.compare (l + 1) 0) wins (x :: merged) left (y :: right)
  | fuel + 1, .gallop, wins, merged, left, y :: right =>
    let wins := keener wins
    let l := Gallop.placeAfter less y left.toArray 0
    let merged := move l left merged
    match left.drop l with
    | [] => (merged.reverseAux (y :: right), wins)
    | x :: left =>
      if 0 < l && left.isEmpty then (merged.reverseAux (y :: right ++ [x]), wins)
      else
        let merged := y :: merged
        let r := if right.isEmpty then 0 else Gallop.placeBefore less x right.toArray 0
        let merged := move r right merged
        let right := right.drop r
        if right.isEmpty then (merged.reverseAux (x :: left), wins)
        else
          let merged := x :: merged
          if left.length = 1 then (merged.reverseAux (right ++ left), wins)
          else
            let (phase, wins) := afterStretches l r wins
            upwards less fuel phase wins merged left right
  | _, _, wins, merged, left, right => (merged.reverseAux (left ++ right), wins)

/-- Merges downwards, for at most `fuel` rounds; both runs are given last item first, and `merged`
holds what has been merged, first item first. When a single item of the right run remains, it
belongs to the front. -/
def downwards (less : β → β → Bool) :
    (fuel : Nat) → Phase → (wins : Nat) → (merged left right : List β) → List β × Nat
  | fuel + 1, .compare l r, wins, merged, x :: left, y :: right =>
    if less y x then
      if left.isEmpty then ((y :: right).reverseAux (x :: merged), wins)
      else if wins ≤ l + 1 then
        downwards less fuel .gallop (wins + 1) (x :: merged) left (y :: right)
      else downwards less fuel (.compare (l + 1) 0) wins (x :: merged) left (y :: right)
    else if right.length = 1 then (right ++ (x :: left).reverseAux (y :: merged), wins)
    else if wins ≤ r + 1 then
      downwards less fuel .gallop (wins + 1) (y :: merged) (x :: left) right
    else downwards less fuel (.compare 0 (r + 1)) wins (y :: merged) (x :: left) right
  | fuel + 1, .gallop, wins, merged, left, y :: right =>
    let wins := keener wins
    let l := left.length - Gallop.placeAfter less y left.reverse.toArray (left.length - 1)
    let merged := move l left merged
    match left.drop l with
    | [] => ((y :: right).reverseAux merged, wins)
    | x :: left =>
      let merged := y :: merged
      if right.length = 1 then (right ++ (x :: left).reverseAux merged, wins)
      else
        let r := right.length - Gallop.placeBefore less x right.reverse.toArray (right.length - 1)
        let merged := move r right merged
        let right := right.drop r
        if 0 < r && right.length = 1 then (right ++ (x :: left).reverseAux merged, wins)
        else if right.isEmpty then ((x :: left).reverseAux merged, wins)
        else
          let merged := x :: merged
          if left.isEmpty then (right.reverseAux merged, wins)
          else
            let (phase, wins) := afterStretches l r wins
            downwards less fuel phase wins merged left right
  | _, _, wins, merged, left, right => (left.reverseAux (right.reverseAux merged), wins)

/-- Merges two runs of which the left one is not the longer one; the first item of the right run
comes first. -/
def fromFront (less : β → β → Bool) (wins : Nat) (left right : List β) : List β × Nat :=
  match right with
  | [] => (left, wins)
  | y :: right =>
    if right.isEmpty || left.length = 1 then (y :: right ++ left, wins)
    else upwards less (left.length + right.length) (.compare 0 0) wins [y] left right

/-- Merges two runs of which the left one is the longer one; its last item comes last. -/
def fromBack (less : β → β → Bool) (wins : Nat) (left right : List β) : List β × Nat :=
  match left.reverse with
  | [] => (right, wins)
  | x :: rest =>
    if rest.isEmpty || right.length = 1 then (right ++ left, wins)
    else downwards less (left.length + right.length) (.compare 0 0) wins [x] rest right.reverse

/-- Merges two runs, where `wins` wins in a row lead to galloping; also gives the number that leads
to it next time. What is in its place already takes no part. -/
def runs (less : β → β → Bool) (wins : Nat) (left right : List β) : List β × Nat :=
  match right with
  | [] => (left, wins)
  | y :: _ =>
    let fixed := Gallop.placeAfter less y left.toArray 0
    let rest := left.drop fixed
    match rest.getLast? with
    | none => (left ++ right, wins)
    | some x =>
      let moving := Gallop.placeBefore less x right.toArray (right.length - 1)
      if moving = 0 then (left ++ right, wins)
      else
        let (merged, wins) :=
          if rest.length ≤ moving then fromFront less wins rest (right.take moving)
          else fromBack less wins rest (right.take moving)
        (left.take fixed ++ merged ++ right.drop moving, wins)

end EntitySearch.Merge
