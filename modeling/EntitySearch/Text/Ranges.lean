/-!
# Ascending code point ranges

A class of characters is kept as a list of inclusive code point ranges in ascending order.
`inRanges` answers membership and stops at the first range that begins beyond the code point;
`inRuns` does so for runs of every other or every third code point. A mapping of code points is kept
as a list of runs, each of which adds the same to all its code points; `shiftIn` follows it.
-/

namespace EntitySearch.Text

/-- Whether a code point lies in one of the ranges, which are in ascending order. -/
def inRanges : List (Nat × Nat) → Nat → Bool
  | [], _ => false
  | (lo, hi) :: rest, n => decide (lo ≤ n) && (decide (n ≤ hi) || inRanges rest n)

/-- Whether a code point lies in one of the runs, which are in ascending order. A run is given by
its first and last code point and the distance between neighbours. -/
def inRuns : List (Nat × Nat × Nat) → Nat → Bool
  | [], _ => false
  | (first, last, step) :: rest, n =>
    decide (first ≤ n) && (decide (n ≤ last ∧ (n - first) % step = 0) || inRuns rest n)

/-- The partner of a code point in ascending runs, itself when it is in none. A run is given by its
first and last code point, the distance between neighbours, and what is added. -/
def shiftIn : List (Nat × Nat × Nat × Int) → Nat → Nat
  | [], n => n
  | (first, last, step, shift) :: rest, n =>
    if n < first then n
    else if n ≤ last ∧ (n - first) % step = 0 then (n + shift).toNat
    else shiftIn rest n

/-- A code point that is found lies between the ends of some range. -/
theorem exists_of_inRanges {ranges : List (Nat × Nat)} {n : Nat} (h : inRanges ranges n = true) :
    ∃ r ∈ ranges, r.1 ≤ n ∧ n ≤ r.2 := by
  induction ranges with
  | nil => simp [inRanges] at h
  | cons r rest ih =>
    simp only [inRanges, Bool.and_eq_true, Bool.or_eq_true, decide_eq_true_eq] at h
    rcases h.2 with hi | hr
    · exact ⟨r, by simp, h.1, hi⟩
    · obtain ⟨s, hs, hb⟩ := ih hr
      exact ⟨s, List.mem_cons_of_mem _ hs, hb⟩

end EntitySearch.Text
