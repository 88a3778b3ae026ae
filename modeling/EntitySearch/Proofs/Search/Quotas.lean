import EntitySearch.Entity.Descriptor
import EntitySearch.Proofs.Number.Exact
import EntitySearch.Proofs.Number.Plain
import EntitySearch.Proofs.Search.Shares
/-!
# Shares of the results, rounded up

A type is due its share of a limit, rounded up to a whole result (`due`). All types together are due
the limit and five more at most (`sum_due`). Without rounding a share is what is due
(`quotaLimit_exact`), and so it is in doubles as far as limits below `firstShort`
(`quotaLimit_eq_due`): rounding to 53 digits and to nine places keeps a share between the same whole
numbers.
-/

namespace EntitySearch

open Number (ArithmeticError StandsFor Rounded Nearest)

/-- What is due to a type with a share in percent. -/
def due (limit : ℤ) (percent : ℕ) : ℤ := ⌈(limit * percent / 100 : ℚ)⌉

/-- Where the share of a limit lies below what is due. -/
theorem due_bounds (limit : ℤ) (percent : ℕ) :
    limit * percent ≤ 100 * due limit percent ∧
      100 * (due limit percent - 1) < limit * percent := by
  have hceil := (Int.ceil_eq_iff (a := (limit * percent / 100 : ℚ))).mp
    (rfl : _ = due limit percent)
  rw [lt_div_iff₀ (by norm_num), div_le_iff₀ (by norm_num)] at hceil
  obtain ⟨hlow, hhigh⟩ := hceil
  constructor
  · have hcast : ((limit * percent : ℤ) : ℚ) ≤ (due limit percent * 100 : ℤ) := by
      exact_mod_cast hhigh
    have hint : limit * percent ≤ due limit percent * 100 := by exact_mod_cast hcast
    linarith
  · have hint : (due limit percent - 1) * 100 < limit * percent := by exact_mod_cast hlow
    linarith

theorem due_eq (limit : ℤ) (percent : ℕ) : due limit percent = (limit * percent + 99) / 100 := by
  obtain ⟨hlow, hhigh⟩ := due_bounds limit percent
  omega

theorem percent_bounds : ∀ share ∈ quotaPercents, 5 ≤ share.2 ∧ share.2 ≤ 35 ∧ share.2 % 5 = 0 := by
  decide

/-- Every type is due one result at least. -/
theorem one_le_due {limit : ℤ} (hlimit : 1 ≤ limit) {percent : ℕ} (hpercent : 5 ≤ percent) :
    1 ≤ due limit percent := by
  have hbounds := (due_bounds limit percent).1
  have hpos : 0 < limit * percent := by positivity
  omega

/-- All types together are due the limit, and five more at most. -/
theorem sum_due (limit : ℤ) :
    limit ≤ (quotaPercents.map fun share => due limit share.2).sum ∧
      (quotaPercents.map fun share => due limit share.2).sum ≤ limit + 5 := by
  have hvideo := due_bounds limit 35
  have hnote := due_bounds limit 25
  have huser := due_bounds limit 15
  have hlist := due_bounds limit 10
  have hcommunity := due_bounds limit 5
  simp only [quotaPercents, List.map_cons, List.map_nil, List.sum_cons, List.sum_nil]
  push_cast at *
  omega

/-- Without rounding a type gets what it is due, whatever the limit. -/
theorem quotaLimit_exact {limit : ℤ} (hlimit : 1 ≤ limit) {percent : ℕ} (hpercent : 5 ≤ percent) :
    quotaLimit limit (Scalar.decimal percent 2 : ℚ) = .ok (due limit percent) := by
  have hshare : (Scalar.decimal percent 2 : ℚ) = percent / 100 := by
    show (percent / 10 ^ 2 : ℚ) = _
    norm_num
  have hpositive : Scalar.isAtMostZero (percent / 100 : ℚ) = false := by
    have hpos : (0 : ℚ) < percent / 100 := by positivity
    have hzero : (Scalar.decimal 0 0 : ℚ) = 0 := by
      show ((0 : ℕ) / 10 ^ 0 : ℚ) = 0
      norm_num
    show (decide ((percent / 100 : ℚ) < Scalar.decimal 0 0) ||
      decide ((percent / 100 : ℚ) = Scalar.decimal 0 0)) = false
    rw [hzero, decide_eq_false hpos.not_gt, decide_eq_false hpos.ne']
    rfl
  -- a hundredth of a whole number has no more than nine places
  have hnano : Number.roundNano (limit * (percent / 100) : ℚ) = limit * (percent / 100) := by
    obtain ⟨n, rfl⟩ := Int.eq_ofNat_of_zero_le (show 0 ≤ limit by omega)
    refine Number.roundNano_eq (by positivity) (n := n * percent * 10 ^ 7) ?_
    push_cast
    ring
  unfold quotaLimit
  rw [hshare, if_neg (by simp [hpositive]; omega)]
  show Except.ok ⌈Number.roundNano (limit * (percent / 100) : ℚ)⌉ = _
  rw [hnano, due, mul_div_assoc]

/-! ## Rounding twice -/

/-- What has been rounded to a whole number lies between the same whole numbers. -/
theorem near_bounds {x : ℚ} {k : ℕ} (h : |x - k| ≤ 1 / 2) (n : ℤ) :
    ((n : ℚ) ≤ x → (n : ℚ) ≤ k) ∧ (x ≤ n → (k : ℚ) ≤ n) := by
  obtain ⟨hlow, hhigh⟩ := abs_le.mp h
  constructor
  · intro hn
    have hless : (n : ℚ) < (k : ℤ) + 1 := by push_cast; linarith
    have hint : n ≤ k := Int.lt_add_one_iff.mp (by exact_mod_cast hless)
    exact_mod_cast hint
  · intro hn
    have hless : ((k : ℤ) : ℚ) < n + 1 := by push_cast; linarith
    have hint : (k : ℤ) ≤ n := Int.lt_add_one_iff.mp (by exact_mod_cast hless)
    exact_mod_cast hint

section Between

variable {q v : ℚ} {e c : ℤ} (hv : Rounded q e v) (hc : 1 ≤ c) (hc' : c < 2 ^ 49)

include hv

/-- A number that is not above a whole one, but for the last digits, is not rounded above it. -/
theorem rounded_le (he : e ≤ 0) (hhigh : q ≤ c + c / 2 ^ 54) : v ≤ c := by
  by_cases hmany : (2 : ℚ) ^ 53 * 2 ^ e ≤ c
  · exact hv.upper.trans hmany
  · have hint : (c : ℚ) = c * 2 ^ (0 : ℤ) := by rw [zpow_zero, mul_one]
    rw [hint]
    refine hv.le_multiple he ?_
    rw [← hint]
    linarith

include hc hc'

/-- A number that is above a whole one by more than `1 / 32` keeps clear of it when it is rounded:
there is a multiple of its last digit in between, which has nine decimal places. -/
theorem exists_between (hlow : c - 1 + 1 / 32 < q) (hhigh : q ≤ c + c / 2 ^ 54) :
    e ≤ -4 ∧ ∃ j a : ℤ, e ≤ a ∧ (∃ n : ℤ, (j * 2 ^ a : ℚ) * 10 ^ 9 = n) ∧
      (c - 1 : ℚ) < j * 2 ^ a ∧ j * 2 ^ a ≤ v := by
  have hone : (1 : ℚ) ≤ c := by exact_mod_cast hc
  have hmost : (c : ℚ) ≤ 2 ^ 49 - 1 := by
    have hint : c ≤ 2 ^ 49 - 1 := by omega
    exact_mod_cast hint
  have he : e ≤ -4 := by
    refine hv.exponent_le ?_
    norm_num
    linarith
  refine ⟨he, ?_⟩
  have hunit : (0 : ℚ) < 2 ^ e / 2 := by positivity
  rcases lt_or_eq_of_le he with hless | rfl
  · have hvalue : (((32 * (c - 1) + 1 : ℤ) : ℚ) * 2 ^ (-5 : ℤ)) = c - 1 + 1 / 32 := by
      push_cast
      norm_num
      ring
    refine ⟨32 * (c - 1) + 1, -5, by omega, ⟨1000000000 * (c - 1) + 31250000, ?_⟩, ?_, ?_⟩
    · rw [hvalue]
      push_cast
      ring
    · rw [hvalue]
      linarith
    · exact hv.multiple_le (by omega) (by rw [hvalue]; linarith)
  · -- the last digit is a sixteenth, and the number above the middle before it
    have hvalue : (((16 * (c - 1) + 1 : ℤ) : ℚ) * 2 ^ (-4 : ℤ)) = c - 1 + 1 / 16 := by
      push_cast
      norm_num
      ring
    refine ⟨16 * (c - 1) + 1, -4, le_refl _, ⟨1000000000 * (c - 1) + 62500000, ?_⟩, ?_, ?_⟩
    · rw [hvalue]
      push_cast
      ring
    · rw [hvalue]
      linarith
    · refine hv.multiple_le (le_refl _) ?_
      rw [hvalue]
      norm_num
      linarith

/-- When it is rounded to nine places as well it stays on the same side of this multiple. -/
theorem exists_between_places {k : ℕ} (hk : |v * 10 ^ 9 - k| ≤ 1 / 2)
    (hlow : c - 1 + 1 / 32 < q) (hhigh : q ≤ c + c / 2 ^ 54) :
    (k / 10 ^ 9 : ℚ) ≤ c ∧ ∃ j a : ℤ, e ≤ a ∧ (c - 1 : ℚ) < j * 2 ^ a ∧ j * 2 ^ a ≤ v ∧
      (j * 2 ^ a : ℚ) ≤ k / 10 ^ 9 := by
  obtain ⟨he, j, a, ha, ⟨n, hn⟩, hjlow, hjv⟩ := exists_between hv hc hc' hlow hhigh
  have hvc := rounded_le hv (by omega) hhigh
  refine ⟨?_, j, a, ha, hjlow, hjv, ?_⟩
  · rw [div_le_iff₀ (by norm_num)]
    have hplaces := (near_bounds hk (c * 10 ^ 9)).2 (by push_cast; linarith)
    push_cast at hplaces
    exact hplaces
  · rw [le_div_iff₀ (by norm_num), hn]
    exact (near_bounds hk n).1 (by rw [← hn]; linarith)

/-- Rounded once more to 53 digits it still has the same whole number above it. -/
theorem ceil_eq_of_rounded {w : ℚ} {e' : ℤ} {k : ℕ} (hk : |v * 10 ^ 9 - k| ≤ 1 / 2)
    (hw : Rounded (k / 10 ^ 9) e' w) (hlow : c - 1 + 1 / 32 < q) (hhigh : q ≤ c + c / 2 ^ 54) :
    ⌈w⌉ = c := by
  obtain ⟨hkc, j, a, ha, hjlow, hjv, hjk⟩ := exists_between_places hv hc hc' hk hlow hhigh
  have hone : (1 : ℚ) ≤ c := by exact_mod_cast hc
  have hmost : (c : ℚ) < 2 ^ 49 := by exact_mod_cast hc'
  have he' : e' ≤ 0 := hw.exponent_le (by rw [zpow_zero]; linarith)
  have hwc : w ≤ c := rounded_le hw he' (by linarith [show (0 : ℚ) ≤ c / 2 ^ 54 by positivity])
  have hcw : (c - 1 : ℚ) < w := by
    rcases le_or_gt e' e with hsmall | hlarge
    · have hunit : (0 : ℚ) < 2 ^ e' / 2 := by positivity
      exact hjlow.trans_le (hw.multiple_le (hsmall.trans ha) (by linarith))
    · -- with fewer digits after the point it has become larger
      have hunit : (2 : ℚ) ^ (e + 1) ≤ 2 ^ e' := Number.two_zpow_le.mpr (by omega)
      rw [zpow_add₀ (by norm_num), zpow_one] at hunit
      have hupper := hv.upper
      have hlower := hw.lower
      linarith
  exact Int.ceil_eq_iff.mpr ⟨hcw, hwc⟩

end Between

/-! ## Shares in doubles -/

/-- The double that is a share in percent, which is above the exact share by next to nothing and
below it by less than a fortieth of the last digit. -/
theorem exists_share : ∀ share ∈ quotaPercents, ∃ f : ℚ,
    StandsFor (Scalar.decimal share.2 2) f ∧ (share.2 : ℚ) / 100 - 1 / 45035996273704960 ≤ f ∧
      f ≤ share.2 / 100 + share.2 / 100 / 2 ^ 54 := by
  have hstands : ∀ (percent k : ℕ) (e : ℤ), 2 ^ 52 ≤ k ∧ k < 2 ^ 53 ∧ -1074 ≤ e ∧ e ≤ 970 →
      (Scalar.decimal percent 2 : Float) =
        Float.ofBits (.ofNat ((e + 1074).toNat * 2 ^ 52 + k)) →
      StandsFor (Scalar.decimal percent 2) (k * 2 ^ e) := by
    rintro percent k e ⟨hlow, hhigh, he, he'⟩ hbits
    rw [hbits]
    exact Number.standsFor_ofBits hlow hhigh he he'
  have hvideo := hstands 35 6305039478318694 (-54) (by decide) (by decide +kernel)
  have hnote := hstands 25 4503599627370496 (-54) (by decide) (by decide +kernel)
  have huser := hstands 15 5404319552844595 (-55) (by decide) (by decide +kernel)
  have htenth := hstands 10 7205759403792794 (-56) (by decide) (by decide +kernel)
  have htwentieth := hstands 5 7205759403792794 (-57) (by decide) (by decide +kernel)
  intro share hshare
  simp only [quotaPercents, List.mem_cons, List.not_mem_nil, or_false] at hshare
  rcases hshare with rfl | rfl | rfl | rfl | rfl | rfl
  · exact ⟨_, hvideo, by norm_num, by norm_num⟩
  · exact ⟨_, hnote, by norm_num, by norm_num⟩
  · exact ⟨_, huser, by norm_num, by norm_num⟩
  · exact ⟨_, htenth, by norm_num, by norm_num⟩
  · exact ⟨_, htenth, by norm_num, by norm_num⟩
  · exact ⟨_, htwentieth, by norm_num, by norm_num⟩

/-- No type gets a negative number of results. -/
theorem quotaLimit_nonneg {limit : ℤ} (hlimit : 1 ≤ limit) {share : EntityType × ℕ}
    (hshare : share ∈ quotaPercents) {part : ℤ}
    (h : quotaLimit limit (Scalar.decimal share.2 2 : Float) = .ok part) : 0 ≤ part := by
  obtain ⟨f, hf, -⟩ := exists_share share hshare
  unfold quotaLimit at h
  split at h
  · cases h
    exact le_refl _
  · obtain ⟨whole, hwhole, hceil⟩ := bind_eq_ok.mp h
    have hplain : Number.Plain whole := by
      replace hwhole : Number.floatOfInt limit = .ok whole := hwhole
      unfold Number.floatOfInt at hwhole
      rw [decide_eq_false (by omega)] at hwhole
      split at hwhole
      · rename_i x hx
        cases hwhole
        exact Number.plain_of_ofQuotient hx
      · cases hwhole
    exact ((hplain.mul hf).1.roundPlaces 9).ceil_nonneg hceil

/-- The least limit of which a type gets less than it is due. -/
def firstShort : ℤ := 3 * 2 ^ 48 + 15

/-- The last limits before it, one by one. -/
theorem quotaLimit_last : ∀ rest < 15, ∀ share ∈ quotaPercents,
    quotaLimit (3 * 2 ^ 48 + (rest : ℕ)) (Scalar.decimal share.2 2 : Float) =
      .ok (((3 * 2 ^ 48 + (rest : ℕ)) * share.2 + 99) / 100) := by
  decide +kernel

/-- At this limit it is the videos that get less. -/
theorem quotaLimit_firstShort :
    quotaLimit firstShort (Scalar.decimal 35 2 : Float) = .ok (due firstShort 35 - 1) := by
  rw [due_eq]
  decide +kernel

/-- A share that is no whole number is above the last one by a twentieth at least. -/
theorem due_step (limit : ℤ) {percent : ℕ} (hfives : percent % 5 = 0) :
    100 * (due limit percent - 1) + 5 ≤ limit * percent := by
  have hdue := (due_bounds limit percent).2
  obtain ⟨n, rfl⟩ := Nat.dvd_of_mod_eq_zero hfives
  push_cast at hdue ⊢
  have hfactor : limit * (5 * (n : ℤ)) = 5 * (limit * n) := by ring
  rw [hfactor] at hdue ⊢
  omega

/-- The share of a limit that is not too large is next to what is due, if it is made with a double
for the share in percent. -/
theorem near_due {limit : ℤ} (hlimit : 1 ≤ limit) (hless : limit < 3 * 2 ^ 48) {percent : ℕ}
    (hfives : percent % 5 = 0) {f : ℚ} (hflow : (percent : ℚ) / 100 - 1 / 45035996273704960 ≤ f)
    (hfhigh : f ≤ percent / 100 + percent / 100 / 2 ^ 54) :
    (due limit percent : ℚ) - 1 + 1 / 32 < limit * f ∧
      limit * f ≤ due limit percent + due limit percent / 2 ^ 54 := by
  have hpos : (1 : ℚ) ≤ limit := by exact_mod_cast hlimit
  have hmost : (limit : ℚ) < 3 * 2 ^ 48 := by exact_mod_cast hless
  have hstep : (100 * (due limit percent - 1) + 5 : ℚ) ≤ limit * percent := by
    exact_mod_cast due_step limit hfives
  have hdue : (limit * percent : ℚ) ≤ 100 * due limit percent := by
    exact_mod_cast (due_bounds limit percent).1
  constructor
  · have hmul := mul_le_mul_of_nonneg_left hflow (show (0 : ℚ) ≤ limit by linarith)
    linarith
  · have hmul := mul_le_mul_of_nonneg_left hfhigh (show (0 : ℚ) ≤ limit by linarith)
    linarith

/-- In doubles a type gets what it is due as far as smaller limits. -/
theorem quotaLimit_eq_due {limit : ℤ} (hlimit : 1 ≤ limit) (hshort : limit < firstShort)
    {share : EntityType × ℕ} (hshare : share ∈ quotaPercents) :
    quotaLimit limit (Scalar.decimal share.2 2 : Float) = .ok (due limit share.2) := by
  by_cases hlast : 3 * 2 ^ 48 ≤ limit
  · obtain ⟨rest, hrest⟩ := Int.eq_ofNat_of_zero_le (show 0 ≤ limit - 3 * 2 ^ 48 by omega)
    obtain rfl : limit = 3 * 2 ^ 48 + (rest : ℕ) := by omega
    unfold firstShort at hshort
    rw [due_eq]
    exact quotaLimit_last rest (by omega) share hshare
  obtain ⟨hfive, hmost, hfives⟩ := percent_bounds share hshare
  obtain ⟨f, hf, hflow, hfhigh⟩ := exists_share share hshare
  obtain ⟨x, hx, hwhole⟩ := Number.exists_floatOfInt hlimit (by omega)
  obtain ⟨hlow, hhigh⟩ := near_due hlimit (by omega) hfives hflow hfhigh
  have hc := one_le_due hlimit hfive
  have hc' : due limit share.2 < 2 ^ 49 := by
    have hmost' : limit * share.2 ≤ limit * 35 :=
      mul_le_mul_of_nonneg_left (by exact_mod_cast hmost) (by omega)
    have hdue := (due_bounds limit share.2).2
    omega
  have hone : (1 : ℚ) ≤ due limit share.2 := by exact_mod_cast hc
  have hmany : (due limit share.2 : ℚ) < 2 ^ 49 := by exact_mod_cast hc'
  generalize due limit share.2 = c at hc hc' hlow hhigh hone hmany
  -- the product is rounded, then its nine places, then the double for these
  obtain ⟨e, v, hvstands, hv⟩ := hwhole.mul hf (Number.ordinary_of_le (by linarith) (by linarith))
  obtain ⟨k, hk, hnearest⟩ := hvstands.roundPlaces 9
  obtain ⟨hkc, j, a, -, hjlow, -, hjk⟩ := exists_between_places hv hc hc' hk hlow hhigh
  have hkpos : (1 : ℚ) ≤ k := by
    have hpos : (0 : ℚ) < k / 10 ^ 9 := by linarith
    have hnat : 0 < k := by
      by_contra hzero
      rw [Nat.eq_zero_of_not_pos hzero, Nat.cast_zero, zero_div] at hpos
      exact lt_irrefl _ hpos
    exact_mod_cast hnat
  obtain ⟨e', w, hwstands, hw⟩ := hnearest (Number.ordinary_of_le (by linarith) (by linarith))
  have hpositive : Scalar.isAtMostZero (Scalar.decimal share.2 2 : Float) = false :=
    (IndexPlan.isSmall_share share hshare).2
  have hwhole' : (Scalar.ofInt limit : Except ArithmeticError Float) = .ok x := hx
  unfold quotaLimit
  rw [if_neg (by simp [hpositive]; omega), hwhole']
  rw [← ceil_eq_of_rounded hv hc hc' hk hw hlow hhigh]
  exact hwstands.ceil

end EntitySearch
