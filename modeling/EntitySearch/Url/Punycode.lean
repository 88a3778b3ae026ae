/-!
# Punycode

A word of a host name is written in ASCII: first its ASCII characters, then, behind a hyphen, where
the other code points belong. These are inserted in ascending order, and each insertion is the
distance from the one before, counted over all places in the growing word and all code points. A
distance is a number in base 36 whose digits have thresholds: a digit below its threshold is the
last. The thresholds follow a bias that is adapted after every distance.
-/

namespace EntitySearch.Url.Punycode

/-- The digit of a value below 36. -/
def digit (d : Nat) : Char := if d < 26 then Char.ofNat (0x61 + d) else Char.ofNat (0x30 + d - 26)

/-- The threshold of the digit at a place. -/
def threshold (bias place : Nat) : Nat :=
  let k := 36 * (place + 1)
  if k ≤ bias + 1 then 1 else if bias + 26 ≤ k then 26 else k - bias

theorem threshold_pos (bias place : Nat) : 0 < threshold bias place := by
  simp only [threshold]
  repeat' split
  all_goals omega

/-- The digits of a distance from a place on. -/
def distance (bias place n : Nat) : List Char :=
  let t := threshold bias place
  if n < t then [digit n]
  else digit (t + (n - t) % (36 - t)) :: distance bias (place + 1) ((n - t) / (36 - t))
termination_by n
decreasing_by
  have h := threshold_pos bias place
  calc (n - threshold bias place) / (36 - threshold bias place)
      ≤ n - threshold bias place := Nat.div_le_self _ _
    _ < n := by omega

/-- How often a distance is divided by 35 until it is small, and what is left of it. -/
def shrink (n : Nat) : Nat × Nat :=
  if 455 < n then
    let (times, left) := shrink (n / 35)
    (times + 1, left)
  else (0, n)
termination_by n
decreasing_by omega

/-- The bias after a distance; `size` characters have been placed by then. -/
def adapt (n size : Nat) (first : Bool) : Nat :=
  let damped := if first then n / 700 else n / 2
  let (times, left) := shrink (damped + damped / size)
  36 * times + 36 * left / (left + 38)

/-- The state between insertions: what has been written, the distance since the last insertion, the
bias, and how many characters have been placed. -/
structure Progress where
  written : List Char
  distance : Nat
  bias : Nat
  placed : Nat

/-- Passes a code point of the word while those of one number are inserted; `basic` counts the ASCII
characters of the word. -/
def pass (basic code : Nat) (p : Progress) (n : Nat) : Progress :=
  if n < code then { p with distance := p.distance + 1 }
  else if n = code then
    ⟨p.written ++ Punycode.distance p.bias 0 p.distance, 0,
      adapt p.distance (p.placed + 1) (p.placed == basic), p.placed + 1⟩
  else p

/-- Inserts the code points of ascending numbers; `next` is the least number that has not been
passed. -/
def insertAll (word : List Nat) (basic : Nat) : List Nat → Nat → Progress → Progress
  | [], _, p => p
  | code :: rest, next, p =>
    let reached := { p with distance := p.distance + (code - next) * (p.placed + 1) }
    let passed := word.foldl (pass basic code) reached
    insertAll word basic rest (code + 1) { passed with distance := passed.distance + 1 }

/-- A word in ASCII. -/
def encode (word : List Nat) : List Char :=
  let basic := word.filter (· < 0x80)
  let codes := (word.filter (0x80 ≤ ·)).eraseDups.mergeSort
  let start := if basic.isEmpty then [] else basic.map Char.ofNat ++ ['-']
  (insertAll word basic.length codes 0x80 ⟨start, 0, 72, basic.length⟩).written

/-! ## Reading -/

/-- The value of a digit. -/
def digitValue? (c : Char) : Option Nat :=
  if c.isLower then some (c.toNat - 0x61)
  else if c.isUpper then some (c.toNat - 0x41)
  else if c.isDigit then some (c.toNat - 0x30 + 26)
  else none

/-- The distance at the front of a text and what follows it. The digit at a place counts `weight`
times, and `sum` is the value of the digits before it. -/
def readDistance (bias : Nat) : (place weight sum : Nat) → List Char → Option (Nat × List Char)
  | _, _, _, [] => none
  | place, weight, sum, c :: rest => do
    let d ← digitValue? c
    let t := threshold bias place
    let sum := sum + d * weight
    if d < t then pure (sum, rest) else readDistance bias (place + 1) (weight * (36 - t)) sum rest

/-- The state between insertions: the word so far, the place and the code point of the next
insertion at distance zero, and the bias. -/
structure Reading where
  word : List Nat
  place : Nat
  code : Nat
  bias : Nat

/-- The word after one more insertion; nothing if there is no such code point. -/
def insertAt? (r : Reading) (distance : Nat) (first : Bool) : Option Reading :=
  let size := r.word.length + 1
  let place := r.place + distance
  let code := r.code + place / size
  if 0x10FFFF < code then none
  else
    let word := r.word.take (place % size) ++ code :: r.word.drop (place % size)
    some ⟨word, place % size + 1, code, adapt distance size first⟩

/-- Makes the insertions that a text spells, for at most `fuel` of them. -/
def readFrom (first : Bool) : (fuel : Nat) → Reading → List Char → Option (List Nat)
  | _, r, [] => some r.word
  | 0, _, _ => none
  | fuel + 1, r, text => do
    let (distance, rest) ← readDistance r.bias 0 1 0 text
    let after ← insertAt? r distance first
    readFrom false fuel after rest

/-- The word that an ASCII text stands for. -/
def decode? (text : List Char) : Option (List Nat) :=
  let digits := (text.reverse.takeWhile (· != '-')).reverse
  let basic := (text.take (text.length - digits.length)).dropLast
  readFrom true digits.length ⟨basic.map Char.toNat, 0, 0x80, 72⟩ digits

end EntitySearch.Url.Punycode
