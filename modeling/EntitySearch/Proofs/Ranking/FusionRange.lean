import EntitySearch.Number.Scalar
import EntitySearch.Proofs.Fallible
import EntitySearch.Proofs.Number.Range
import EntitySearch.Ranking.Fusion
/-!
# Fusing in doubles

With a rank constant that is not negative nothing is divided by zero, and fusing in doubles fails
(`RankFusion.fuse_eq_error`) unless every entity comes first at a rank that is, with the constant,
in the range of doubles (`RankFusion.exists_fuse`).
-/

namespace EntitySearch.RankFusion

open Number (ArithmeticError overflow)

/-- An entity comes first in a list at a rank that is, with the constant, too large for a double. -/
def Overflows (k : Int) (results : List (SearchResult Float)) : Prop :=
  ∃ before r after, results = before ++ r :: after ∧
    r.entityId ∉ before.map SearchResult.entityId ∧ (overflow : Int) ≤ k + before.length + 1

/-- The same from a rank on, for entities that have not been seen before. -/
def OverflowsFrom (k : Int) (seen : List Text) (rank : Int) (results : List (SearchResult Float)) :
    Prop :=
  ∃ before r after, results = before ++ r :: after ∧ r.entityId ∉ seen ∧
    r.entityId ∉ before.map SearchResult.entityId ∧
    (overflow : Int) ≤ k + (rank + before.length) + 1

theorem overflowsFrom_nil_zero {k : Int} {results : List (SearchResult Float)} :
    OverflowsFrom k [] 0 results ↔ Overflows k results := by
  unfold OverflowsFrom Overflows
  simp only [List.not_mem_nil, not_false_eq_true, true_and, zero_add]

section Ranks

variable {k rank : Int} {seen : List Text} {r : SearchResult Float}
  {rest : List (SearchResult Float)}

theorem overflowsFrom_cons_of_mem (hseen : r.entityId ∈ seen) :
    OverflowsFrom k seen rank (r :: rest) ↔ OverflowsFrom k seen (rank + 1) rest := by
  constructor
  · rintro ⟨before, first, after, heq, hnew, hbefore, hover⟩
    cases before with
    | nil =>
      cases heq
      exact absurd hseen hnew
    | cons head before =>
      obtain ⟨rfl, rfl⟩ := List.cons_eq_cons.mp heq
      refine ⟨before, first, after, rfl, hnew, ?_, ?_⟩
      · exact fun hin => hbefore (List.mem_cons_of_mem _ hin)
      · rw [List.length_cons] at hover
        omega
  · rintro ⟨before, first, after, rfl, hnew, hbefore, hover⟩
    refine ⟨r :: before, first, after, rfl, hnew, ?_, ?_⟩
    · intro hin
      rcases List.mem_cons.mp hin with heq | hin
      · exact hnew (heq ▸ hseen)
      · exact hbefore hin
    · rw [List.length_cons]
      omega

theorem overflowsFrom_cons_of_notMem (hseen : r.entityId ∉ seen) :
    OverflowsFrom k seen rank (r :: rest) ↔
      (overflow : Int) ≤ k + rank + 1 ∨ OverflowsFrom k (r.entityId :: seen) (rank + 1) rest := by
  constructor
  · rintro ⟨before, first, after, heq, hnew, hbefore, hover⟩
    cases before with
    | nil =>
      rw [List.length_nil] at hover
      exact Or.inl (by omega)
    | cons head before =>
      obtain ⟨rfl, rfl⟩ := List.cons_eq_cons.mp heq
      rw [List.map_cons, List.mem_cons, not_or] at hbefore
      refine Or.inr ⟨before, first, after, rfl, ?_, hbefore.2, ?_⟩
      · rw [List.mem_cons, not_or]
        exact ⟨hbefore.1, hnew⟩
      · rw [List.length_cons] at hover
        omega
  · rintro (hover | ⟨before, first, after, rfl, hnew, hbefore, hover⟩)
    · exact ⟨[], r, rest, rfl, hseen, List.not_mem_nil, by rw [List.length_nil]; omega⟩
    · rw [List.mem_cons, not_or] at hnew
      refine ⟨r :: before, first, after, rfl, hnew.2, ?_, ?_⟩
      · rw [List.map_cons, List.mem_cons, not_or]
        exact ⟨hnew.1, hbefore⟩
      · rw [List.length_cons]
        omega

/-- A weight is divided by a positive number unless that is too large for a double. -/
theorem exists_divInt (weight : Float) {n : Int} (hpos : 0 < n) (hsmall : n < overflow) :
    ∃ quotient, Scalar.divInt weight n = .ok quotient := by
  obtain ⟨divisor, hdivisor⟩ := Number.floatOfInt_eq_ok_iff.mpr (show n.natAbs < overflow by omega)
  refine ⟨weight / divisor, bind_eq_ok.mpr ⟨divisor, hdivisor, ?_⟩⟩
  rw [if_neg (by omega)]
  rfl

theorem divInt_eq_error (weight : Float) {n : Int} (hlarge : (overflow : Int) ≤ n) :
    Scalar.divInt weight n = .error .outOfRange := by
  have hdivisor := Number.floatOfInt_eq_error_iff.mpr
    ⟨rfl, show overflow ≤ n.natAbs by omega⟩
  show (Number.floatOfInt n >>= _) = _
  rw [hdivisor]
  rfl

theorem rankedFrom_eq (hk : 0 ≤ k) (weight : Float) (results : List (SearchResult Float))
    (seen : List Text) (rank : Int) (hrank : 0 ≤ rank) :
    (OverflowsFrom k seen rank results →
      rankedFrom k weight seen rank results = .error .outOfRange) ∧
    (¬ OverflowsFrom k seen rank results →
      ∃ ledger, rankedFrom k weight seen rank results = .ok ledger) := by
  induction results generalizing seen rank with
  | nil =>
    refine ⟨?_, fun _ => ⟨[], rfl⟩⟩
    rintro ⟨before, first, after, heq, _⟩
    simp at heq
  | cons r rest ih =>
    unfold rankedFrom
    -- only an entity that has not been seen is divided for
    by_cases hseen : r.entityId ∈ seen
    · rw [overflowsFrom_cons_of_mem hseen, if_pos (by simpa using hseen)]
      exact ih seen (rank + 1) (by omega)
    · rw [overflowsFrom_cons_of_notMem hseen, if_neg (by simpa using hseen)]
      obtain ⟨hfails, hranks⟩ := ih (r.entityId :: seen) (rank + 1) (by omega)
      -- either this rank is too large, or one that follows decides
      rcases Int.lt_or_le (k + rank + 1) overflow with hsmall | hlarge
      · obtain ⟨contribution, hcontribution⟩ :=
          exists_divInt weight (show 0 < k + rank + 1 by omega) hsmall
        rw [hcontribution]
        constructor
        · rintro (hover | hover)
          · omega
          · show (rankedFrom k weight _ _ rest >>= _) = _
            rw [hfails hover]
            rfl
        · intro hnot
          obtain ⟨later, hlater⟩ := hranks fun hover => hnot (Or.inr hover)
          exact ⟨_, bind_eq_ok.mpr ⟨contribution, rfl, bind_eq_ok.mpr ⟨later, hlater, rfl⟩⟩⟩
      · rw [divInt_eq_error weight hlarge]
        exact ⟨fun _ => rfl, fun hnot => absurd (Or.inl hlarge) hnot⟩

end Ranks

section Fusing

variable {f : RankFusion Float} (hk : 0 ≤ f.k) (weight : Float)
  (primary secondary results : List (SearchResult Float)) (limit : Int)

include hk

theorem ranked_eq_error (h : Overflows f.k results) :
    ranked f.k weight results = .error .outOfRange :=
  (rankedFrom_eq hk weight results [] 0 (le_refl 0)).1 (overflowsFrom_nil_zero.mpr h)

theorem exists_ranked (h : ¬ Overflows f.k results) :
    ∃ ledger, ranked f.k weight results = .ok ledger :=
  (rankedFrom_eq hk weight results [] 0 (le_refl 0)).2 fun hover =>
    h (overflowsFrom_nil_zero.mp hover)

theorem fuse_eq_error (h : Overflows f.k primary ∨ Overflows f.k secondary) :
    f.fuse primary secondary limit = .error .outOfRange := by
  unfold fuse
  -- the primary list is ranked first, and fails first
  by_cases hprimary : Overflows f.k primary
  · rw [ranked_eq_error hk _ primary hprimary]
    rfl
  · obtain ⟨first, hfirst⟩ := exists_ranked hk (Scalar.ofNat 1) primary hprimary
    rw [hfirst, ranked_eq_error hk _ secondary (h.resolve_left hprimary)]
    rfl

theorem exists_fuse (hprimary : ¬ Overflows f.k primary) (hsecondary : ¬ Overflows f.k secondary) :
    ∃ fused, f.fuse primary secondary limit = .ok fused := by
  obtain ⟨first, hfirst⟩ := exists_ranked hk (Scalar.ofNat 1) primary hprimary
  obtain ⟨second, hsecond⟩ := exists_ranked hk f.secondaryBoost secondary hsecondary
  exact ⟨_, bind_eq_ok.mpr ⟨first, hfirst, bind_eq_ok.mpr ⟨second, hsecond, rfl⟩⟩⟩

end Fusing

end EntitySearch.RankFusion
