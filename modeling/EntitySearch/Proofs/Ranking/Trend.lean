import EntitySearch.Proofs.Number.Exact
import EntitySearch.Ranking.Relevance
/-!
# The law of trends

Without rounding a trend is a quotient whose divisor is at least the smoothing time, however the
clocks stand (`trendingScore_exact`). So it grows with the uses, falls as time goes by and keeps
within its bounds, and one more use always raises it, whenever it is counted (`trend_laws`).
-/

namespace EntitySearch

open Number (ArithmeticError)

/-- The smoothed age of a tag at a moment. An age is never negative. -/
def smoothedAge (smoothing firstSeen now : ℤ) : ℤ := max (now - firstSeen) 0 + smoothing

/-- The trend without rounding: the uses of a tag, at least none, by its smoothed age. -/
def exactTrend (smoothing uses firstSeen now : ℤ) : ℚ :=
  (max uses 0 : ℤ) / (smoothedAge smoothing firstSeen now : ℤ)

/-- The trend at a moment of what is counted of a tag; nothing counted is no trend. -/
def TagUsage.trend (smoothing : ℤ) (usage : Option TagUsage) (now : ℤ) :
    Except ArithmeticError ℚ :=
  match usage with
  | none => .ok 0
  | some u => trendingScore u.usageCount u.firstSeen now smoothing

section Laws

variable {smoothing : ℤ} (hsmoothing : 0 < smoothing)

include hsmoothing

theorem smoothing_le_smoothedAge (firstSeen now : ℤ) :
    smoothing ≤ smoothedAge smoothing firstSeen now ∧
      (0 : ℚ) < smoothedAge smoothing firstSeen now := by
  have hage : smoothing ≤ smoothedAge smoothing firstSeen now := by
    unfold smoothedAge
    omega
  refine ⟨hage, ?_⟩
  exact_mod_cast hsmoothing.trans_le hage

/-- The divisor is never zero, and the quotient is the trend. -/
theorem trendingScore_exact (uses firstSeen now : ℤ) :
    trendingScore uses firstSeen now smoothing =
      .ok (exactTrend smoothing uses firstSeen now) := by
  obtain ⟨hage, -⟩ := smoothing_le_smoothedAge hsmoothing firstSeen now
  have hdivisor : smoothedAge smoothing firstSeen now ≠ 0 := by omega
  unfold trendingScore exactTrend
  by_cases huses : uses ≤ 0
  · rw [if_pos huses, max_eq_right huses]
    show Except.ok ((0 : ℕ) / 10 ^ 0 : ℚ) = _
    norm_num
  · have hcount : max uses 0 = uses := max_eq_left (by omega)
    rw [if_neg huses, hcount]
    exact if_neg hdivisor

/-- More uses are no lower trend. -/
theorem monotone_exactTrend (firstSeen now : ℤ) :
    Monotone fun uses => exactTrend smoothing uses firstSeen now := by
  intro uses more hmore
  have hcount : ((max uses 0 : ℤ) : ℚ) ≤ (max more 0 : ℤ) := by
    exact_mod_cast max_le_max_right 0 hmore
  exact div_le_div_of_nonneg_right hcount
    (smoothing_le_smoothedAge hsmoothing firstSeen now).2.le

/-- Time that goes by does not raise a trend. -/
theorem antitone_exactTrend (uses firstSeen : ℤ) :
    Antitone (exactTrend smoothing uses firstSeen) := by
  intro now later hlater
  have hage : smoothedAge smoothing firstSeen now ≤ smoothedAge smoothing firstSeen later := by
    unfold smoothedAge
    omega
  have hcount : (0 : ℚ) ≤ (max uses 0 : ℤ) := by exact_mod_cast le_max_right uses 0
  exact div_le_div_of_nonneg_left hcount
    (smoothing_le_smoothedAge hsmoothing firstSeen now).2 (by exact_mod_cast hage)

/-- From the first use on, time that goes by lowers the trend of a tag that is used. -/
theorem strictAntiOn_exactTrend {uses : ℤ} (huses : 0 < uses) (firstSeen : ℤ) :
    StrictAntiOn (exactTrend smoothing uses firstSeen) (Set.Ici firstSeen) := by
  intro now hnow later _ hlater
  have hage : smoothedAge smoothing firstSeen now < smoothedAge smoothing firstSeen later := by
    have hseen : firstSeen ≤ now := hnow
    unfold smoothedAge
    omega
  have hcount : (0 : ℚ) < (max uses 0 : ℤ) := by exact_mod_cast lt_max_of_lt_left huses
  exact div_lt_div_of_pos_left hcount
    (smoothing_le_smoothedAge hsmoothing firstSeen now).2 (by exact_mod_cast hage)

theorem exactTrend_bounds (uses firstSeen now : ℤ) :
    0 ≤ exactTrend smoothing uses firstSeen now ∧
      exactTrend smoothing uses firstSeen now ≤ (max uses 0 : ℤ) / smoothing := by
  obtain ⟨hage, hpos⟩ := smoothing_le_smoothedAge hsmoothing firstSeen now
  have hcount : (0 : ℚ) ≤ (max uses 0 : ℤ) := by exact_mod_cast le_max_right uses 0
  have hleast : (0 : ℚ) < smoothing := by exact_mod_cast hsmoothing
  exact ⟨div_nonneg hcount hpos.le,
    div_le_div_of_nonneg_left hcount hleast (by exact_mod_cast hage)⟩

/-- More uses in the same age are a higher trend. -/
theorem exactTrend_lt {uses more : ℤ} (hless : uses < more) (hmore : 0 < more)
    (firstSeen now : ℤ) :
    exactTrend smoothing uses firstSeen now < exactTrend smoothing more firstSeen now := by
  have hcount : ((max uses 0 : ℤ) : ℚ) < (max more 0 : ℤ) := by
    exact_mod_cast max_lt_max_left_iff.mpr ⟨hless, hmore⟩
  exact div_lt_div_of_pos_right hcount (smoothing_le_smoothedAge hsmoothing firstSeen now).2

/-- One more use raises the trend, whatever was counted before and whenever the use is made. -/
theorem trend_lt_trend_record (usage : Option TagUsage) (tag : Text) (recorded now : ℤ) :
    ∃ before after : ℚ, TagUsage.trend smoothing usage now = .ok before ∧
      TagUsage.trend smoothing (some (TagUsage.record usage tag recorded)) now = .ok after ∧
      before < after := by
  -- what begins anew has one use
  have hanew : (0 : ℚ) < exactTrend smoothing 1 recorded now := by
    have hnone : exactTrend smoothing 0 recorded now = 0 := by simp [exactTrend]
    rw [← hnone]
    exact exactTrend_lt hsmoothing (by omega) (by omega) recorded now
  cases usage with
  | none => exact ⟨0, _, rfl, trendingScore_exact hsmoothing 1 recorded now, hanew⟩
  | some u =>
    refine ⟨_, _, trendingScore_exact hsmoothing .., trendingScore_exact hsmoothing .., ?_⟩
    by_cases huses : u.usageCount ≤ 0
    · have hbefore : exactTrend smoothing u.usageCount u.firstSeen now = 0 := by
        rw [exactTrend, max_eq_right huses]
        simp
      rw [hbefore]
      simpa [TagUsage.record, huses] using hanew
    · simp only [TagUsage.record, huses, if_false]
      exact exactTrend_lt hsmoothing (by omega) (by omega) u.firstSeen now

/-- Without rounding, and with any smoothing time, a trend is always there. It does not fall with
more uses or rise as time goes by, falls from the first use on if there are uses, and is between
zero and the uses by the smoothing time, even before the first use. One more use raises the trend
at any moment, whenever it is made. -/
theorem trend_laws :
    (∀ uses firstSeen now : ℤ, trendingScore uses firstSeen now smoothing =
      .ok (exactTrend smoothing uses firstSeen now)) ∧
    (∀ firstSeen now, Monotone fun uses => exactTrend smoothing uses firstSeen now) ∧
    (∀ uses firstSeen, Antitone (exactTrend smoothing uses firstSeen)) ∧
    (∀ uses firstSeen, 0 < uses →
      StrictAntiOn (exactTrend smoothing uses firstSeen) (Set.Ici firstSeen)) ∧
    (∀ uses firstSeen now, 0 ≤ exactTrend smoothing uses firstSeen now ∧
      exactTrend smoothing uses firstSeen now ≤ (max uses 0 : ℤ) / smoothing) ∧
    ∀ usage tag recorded now, ∃ before after : ℚ,
      TagUsage.trend smoothing usage now = .ok before ∧
      TagUsage.trend smoothing (some (TagUsage.record usage tag recorded)) now = .ok after ∧
      before < after :=
  ⟨trendingScore_exact hsmoothing, monotone_exactTrend hsmoothing,
    antitone_exactTrend hsmoothing, fun _ firstSeen huses =>
      strictAntiOn_exactTrend hsmoothing huses firstSeen,
    exactTrend_bounds hsmoothing, trend_lt_trend_record hsmoothing⟩

end Laws

/-- Five uses of a tag that is first seen after the present moment, and a sixth recorded later
still. -/
theorem trend_laws_skewed :
    0 < trendSmoothing ∧
    trendingScore 5 100 50 = .ok (5 / 86400 : ℚ) ∧
    ∃ after : ℚ, TagUsage.trend trendSmoothing
      (some (TagUsage.record (some ⟨"bit", 5, 100, 100⟩) "bit" 900)) 50 = .ok after ∧
      5 / 86400 < after := by
  obtain ⟨hquotient, -, -, -, -, hraises⟩ := trend_laws (by decide : 0 < trendSmoothing)
  have hfive : exactTrend trendSmoothing 5 100 50 = 5 / 86400 := by
    norm_num [exactTrend, smoothedAge, trendSmoothing]
  have hbefore : trendingScore 5 100 50 = .ok (5 / 86400 : ℚ) := by rw [hquotient, hfive]
  obtain ⟨before, after, hless, hafter, hlt⟩ := hraises (some ⟨"bit", 5, 100, 100⟩) "bit" 900 50
  refine ⟨by decide, hbefore, after, hafter, ?_⟩
  have hsame : before = 5 / 86400 := Except.ok.inj (hless.symm.trans hbefore)
  rwa [hsame] at hlt

end EntitySearch
