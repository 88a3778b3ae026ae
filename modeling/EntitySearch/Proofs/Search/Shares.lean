import EntitySearch.Proofs.Fallible
import EntitySearch.Proofs.Number.Finite
import EntitySearch.Search.IndexPlan
/-!
# Shares of a limit

The parts of a limit come in the order of the shares (`IndexPlan.types_subLimits`). In doubles a
limit can be divided (`IndexPlan.exists_subLimits`) unless it is itself too large for a double
(`IndexPlan.subLimits_eq_error`): all shares are below a half.
-/

namespace EntitySearch.IndexPlan

open Number (ArithmeticError Finite isSmall overflow)

/-- The types that get a part of a limit come in the order of the shares. -/
theorem types_subLimits {α : Type} [LogScalar α] {limit : Int} {parts : List (EntityType × Int)}
    (h : subLimits α limit = .ok parts) :
    (parts.map Prod.fst).Sublist (quotaPercents.map Prod.fst) := by
  unfold subLimits at h
  obtain ⟨all, hall, h⟩ := bind_eq_ok.mp h
  cases h
  have htypes : quotaPercents.map Prod.fst = all.map Prod.fst := by
    rw [← List.forall₂_eq_eq_eq, List.forall₂_map_left_iff, List.forall₂_map_right_iff]
    refine (mapM_eq_ok hall).imp ?_
    intro share entry hentry
    obtain ⟨part, _, hentry⟩ := bind_eq_ok.mp hentry
    cases hentry
    rfl
  rw [htypes]
  exact List.filter_sublist.map _

/-! ## Shares in doubles -/

theorem isSmall_share : ∀ share ∈ quotaPercents,
    isSmall (Scalar.decimal share.2 2) = true ∧
      Scalar.isAtMostZero (Scalar.decimal share.2 2 : Float) = false := by
  decide +kernel

/-- A share of a limit can be told if the limit is in the range of doubles. -/
theorem exists_quotaLimit {limit : Int} (hlimit : limit.natAbs < overflow) {share : Float}
    (hshare : isSmall share = true) : ∃ part, quotaLimit limit share = .ok part := by
  unfold quotaLimit
  split
  · exact ⟨0, rfl⟩
  · obtain ⟨whole, hwhole⟩ := Number.floatOfInt_eq_ok_iff.mpr hlimit
    have hfinite := (Number.finite_of_floatOfInt hwhole).mul_small hshare
    obtain ⟨part, hpart⟩ := (hfinite.roundPlaces 9).ceilFloat
    exact ⟨part, bind_eq_ok.mpr ⟨whole, hwhole, hpart⟩⟩

theorem quotaLimit_eq_error {limit : Int} (hpos : 0 < limit) (hlimit : overflow ≤ limit.natAbs)
    {share : Float} (hshare : Scalar.isAtMostZero share = false) :
    quotaLimit limit share = .error .outOfRange := by
  have hwhole : (Scalar.ofInt limit : Except ArithmeticError Float) = .error .outOfRange :=
    Number.floatOfInt_eq_error_iff.mpr ⟨rfl, hlimit⟩
  unfold quotaLimit
  rw [if_neg (by simp [hshare, hpos]), hwhole]
  rfl

theorem exists_subLimits {limit : Int} (hlimit : limit.natAbs < overflow) :
    ∃ parts, subLimits Float limit = .ok parts := by
  have hshares : ∀ share ∈ quotaPercents, ∃ entry,
      (do
        let part ← quotaLimit limit (Scalar.decimal share.2 2 : Float)
        pure (share.1, part) : Except ArithmeticError (EntityType × Int)) = .ok entry := by
    intro share hshare
    obtain ⟨part, hpart⟩ := exists_quotaLimit hlimit (isSmall_share share hshare).1
    exact ⟨(share.1, part), bind_eq_ok.mpr ⟨part, hpart, rfl⟩⟩
  obtain ⟨all, hall⟩ := exists_mapM_eq_ok hshares
  exact ⟨_, bind_eq_ok.mpr ⟨all, hall, rfl⟩⟩

theorem subLimits_eq_error {limit : Int} (hpos : 0 < limit) (hlimit : overflow ≤ limit.natAbs) :
    subLimits Float limit = .error .outOfRange := by
  -- the first share cannot be told already
  have hfirst : quotaLimit limit (Scalar.decimal 35 2 : Float) = .error .outOfRange :=
    quotaLimit_eq_error hpos hlimit (isSmall_share (.video, 35) (by decide)).2
  unfold subLimits quotaPercents
  rw [List.mapM_cons]
  simp only [hfirst]
  rfl

section Plans

variable (adjuster : Adjuster Float) (store : IndexStore Float) (q : Query) {limit : Int}

/-- A unified search in doubles cannot be planned for a limit that is too large for a double. -/
theorem unified_eq_error (hpos : 0 < limit) (hlimit : (overflow : Int) ≤ limit) :
    unified adjuster store q limit = .error .outOfRange := by
  unfold unified
  rw [if_neg (by omega), subLimits_eq_error hpos (by omega)]
  rfl

theorem exists_unified (hlimit : limit < overflow) :
    ∃ p, unified adjuster store q limit = .ok p := by
  unfold unified
  split
  · exact ⟨_, rfl⟩
  · obtain ⟨parts, hparts⟩ := exists_subLimits (show limit.natAbs < overflow by omega)
    rw [hparts]
    exact ⟨_, rfl⟩

/-- Whether a search in doubles can be planned: only a unified one needs the limit as a double. -/
theorem exists_ofStrategy {s : Strategy} (h : ¬ (s = .unified ∧ (overflow : Int) ≤ limit)) :
    ∃ p, ofStrategy adjuster store s q limit = .ok p := by
  cases s with
  | single t => exact ⟨_, rfl⟩
  | unified => exact exists_unified adjuster store q (not_le.mp fun hover => h ⟨rfl, hover⟩)

end Plans

end EntitySearch.IndexPlan
