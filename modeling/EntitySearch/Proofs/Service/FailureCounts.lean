import EntitySearch.Service.Metrics
import Mathlib
/-!
# Counted failures

How often a source has failed for a reason stands in one series of one counter
(`Metrics.failuresOf`). Of the measurements that are recorded, exactly the failures of this source
for this reason count in it, once each (`Metrics.failuresOf_recordAll`).
-/

namespace EntitySearch

/-- Whether a measurement is the failure of a source for a reason. -/
def Measurement.isFailureOf (source reason : Text) : Measurement → Bool
  | .failure s r => decide (s = source ∧ r.name = reason)
  | _ => false

namespace Metrics

/-- How often a source has failed for a reason, as counted. -/
def failuresOf (m : Metrics) (source reason : Text) : Nat :=
  (m.failures.series.get? [("entity_type", source), ("reason", reason)]).getD 0

variable (m : Metrics) (source reason : Text)

theorem failuresOf_record (e : Measurement) :
    (m.record e).failuresOf source reason =
      m.failuresOf source reason + if e.isFailureOf source reason then 1 else 0 := by
  cases e with
  | search strategy seconds count => rfl
  | fusion algorithm => rfl
  | request method endpoint status seconds => rfl
  | failure s r =>
    simp only [record, failuresOf, Counter.increase, Ledger.get?_put, Measurement.isFailureOf,
      decide_eq_true_eq]
    by_cases hsame : s = source ∧ r.name = reason
    · obtain ⟨rfl, rfl⟩ := hsame
      simp
    · -- the series of another source or reason
      have hother : ([("entity_type", s), ("reason", r.name)] : Labels) ≠
          [("entity_type", source), ("reason", reason)] := by
        intro heq
        simp only [List.cons.injEq, Prod.mk.injEq, true_and, and_true] at heq
        exact hsame heq
      rw [if_neg hother, if_neg hsame, Nat.add_zero]

theorem failuresOf_recordAll (measurements : List Measurement) :
    (m.recordAll measurements).failuresOf source reason =
      m.failuresOf source reason + measurements.countP (Measurement.isFailureOf source reason) := by
  induction measurements generalizing m with
  | nil => rfl
  | cons e rest ih =>
    calc (m.recordAll (e :: rest)).failuresOf source reason
        = ((m.record e).recordAll rest).failuresOf source reason := rfl
      _ = _ := by rw [ih, failuresOf_record, List.countP_cons, Nat.add_assoc, Nat.add_comm (ite ..)]

end Metrics

end EntitySearch
