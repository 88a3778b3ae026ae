import EntitySearch.Proofs.Number.Reciprocal
/-!
# The numbers that doubles stand for

A positive double stands for a rational number (`StandsFor`). A quotient of whole numbers becomes a
double that stands for it rounded to 53 digits (`exists_ofQuotient`), or some double if it is only
not too great (`exists_ofQuotient_of_lt`), and a rounded number lies between the same multiples of
its last digit as the exact one (`Rounded.le_multiple`, `Rounded.multiple_le`).
-/

namespace EntitySearch.Number

open Float.Model (Format UnpackedFloat totalExponent)
open Float.Model.UnpackedFloat

/-! ## Rounded numbers -/

/-- A number is another one rounded to 53 digits, of which the last stands at an exponent. -/
structure Rounded (exact : ℚ) (exponent : ℤ) (value : ℚ) : Prop where
  digits : ∃ k : ℕ, 2 ^ 52 ≤ k ∧ k ≤ 2 ^ 53 ∧ value = k * 2 ^ exponent
  close : |exact - value| ≤ 2 ^ exponent / 2

theorem two_zpow_le {a b : ℤ} : (2 : ℚ) ^ a ≤ 2 ^ b ↔ a ≤ b :=
  zpow_le_zpow_iff_right₀ (by norm_num)

theorem two_zpow_lt {a b : ℤ} : (2 : ℚ) ^ a < 2 ^ b ↔ a < b :=
  zpow_lt_zpow_iff_right₀ (by norm_num)

/-- A multiple of a digit is one of each later digit. -/
theorem exists_multiple (j : ℤ) {a e : ℤ} (h : e ≤ a) : ∃ n : ℤ, (j * 2 ^ a : ℚ) = n * 2 ^ e := by
  refine ⟨j * 2 ^ (a - e).toNat, ?_⟩
  push_cast
  rw [mul_assoc, ← zpow_natCast, ← zpow_add₀ (by norm_num), Int.toNat_of_nonneg (by omega),
    sub_add_cancel]

namespace Rounded

variable {q v : ℚ} {e : ℤ} (h : Rounded q e v)

include h

/-- Below the middle between two multiples of the last digit the lower one is an upper bound. -/
theorem le_multiple {j a : ℤ} (ha : e ≤ a) (hq : q < j * 2 ^ a + 2 ^ e / 2) : v ≤ j * 2 ^ a := by
  obtain ⟨k, -, -, hv⟩ := h.digits
  obtain ⟨n, hn⟩ := exists_multiple j ha
  rw [hn] at hq ⊢
  have hunit : (0 : ℚ) < 2 ^ e := by positivity
  by_contra hlt
  -- the next multiple is more than half a unit away
  have hnext : n + 1 ≤ (k : ℤ) := by
    have hcast : (n : ℚ) < (k : ℤ) := by
      rw [hv, not_le] at hlt
      exact lt_of_mul_lt_mul_right (by exact_mod_cast hlt) hunit.le
    exact_mod_cast hcast
  have hvalue : ((n : ℚ) + 1) * 2 ^ e ≤ v := by
    rw [hv]
    exact mul_le_mul_of_nonneg_right (by exact_mod_cast hnext) hunit.le
  have hclose := (abs_le.mp h.close).1
  linarith

/-- Above the middle between two multiples of the last digit the upper one is a lower bound. -/
theorem multiple_le {j a : ℤ} (ha : e ≤ a) (hq : j * 2 ^ a - 2 ^ e / 2 < q) : j * 2 ^ a ≤ v := by
  obtain ⟨k, -, -, hv⟩ := h.digits
  obtain ⟨n, hn⟩ := exists_multiple j ha
  rw [hn] at hq ⊢
  have hunit : (0 : ℚ) < 2 ^ e := by positivity
  by_contra hlt
  have hnext : (k : ℤ) ≤ n - 1 := by
    have hcast : ((k : ℤ) : ℚ) < n := by
      rw [hv, not_le] at hlt
      exact lt_of_mul_lt_mul_right (by exact_mod_cast hlt) hunit.le
    have hless : (k : ℤ) < n := by exact_mod_cast hcast
    omega
  have hvalue : v ≤ ((n : ℚ) - 1) * 2 ^ e := by
    rw [hv]
    refine mul_le_mul_of_nonneg_right ?_ hunit.le
    have hcast : ((k : ℤ) : ℚ) ≤ ((n - 1 : ℤ) : ℚ) := by exact_mod_cast hnext
    push_cast at hcast
    exact hcast
  have hclose := (abs_le.mp h.close).2
  linarith

theorem lower : 2 ^ 52 * 2 ^ e ≤ v := by
  obtain ⟨k, hlow, -, rfl⟩ := h.digits
  exact mul_le_mul_of_nonneg_right (by exact_mod_cast hlow) (by positivity)

theorem upper : v ≤ 2 ^ 53 * 2 ^ e := by
  obtain ⟨k, -, hhigh, rfl⟩ := h.digits
  exact mul_le_mul_of_nonneg_right (by exact_mod_cast hhigh) (by positivity)

/-- A multiple of the last digit is not rounded. -/
theorem eq_multiple {j a : ℤ} (ha : e ≤ a) (hq : q = j * 2 ^ a) : v = j * 2 ^ a := by
  have hunit : (0 : ℚ) < 2 ^ e := by positivity
  exact le_antisymm (h.le_multiple ha (by linarith)) (h.multiple_le ha (by linarith))

/-- The last digit of a number with few digits before a digit is not before it. -/
theorem exponent_le {unit : ℤ} (hq : q < (2 ^ 53 - 1) * 2 ^ unit) : e ≤ unit := by
  by_contra hlarge
  have hlow := h.lower
  have hclose := (abs_le.mp h.close).1
  have hunit : (2 : ℚ) ^ (unit + 1) ≤ 2 ^ e := two_zpow_le.mpr (by omega)
  rw [zpow_add₀ (by norm_num), zpow_one] at hunit
  linarith

end Rounded

/-! ## Doubles -/

/-- A double with all its digits stands for a positive number. -/
def StandsFor (x : Float) (value : ℚ) : Prop :=
  ∃ m e hm, x.toModel.unpack = .finite .positive m e hm ∧ 2 ^ 52 ≤ m ∧ m < 2 ^ 53 ∧
    -1074 ≤ e ∧ e ≤ 971 ∧ value = m * 2 ^ e

/-- A number that is far from both ends of the range of doubles. -/
def Ordinary (q : ℚ) : Prop := 2 ^ (-500 : ℤ) ≤ q ∧ q ≤ 2 ^ (500 : ℤ)

/-- A double stands for a number rounded to 53 digits. -/
def Nearest (x : Float) (exact : ℚ) : Prop := ∃ e v, StandsFor x v ∧ Rounded exact e v

theorem ordinary_of_le {q : ℚ} (hlow : 1 / 2 ^ 64 ≤ q) (hhigh : q ≤ 2 ^ 64) : Ordinary q := by
  have hleast : (2 : ℚ) ^ (-500 : ℤ) ≤ 2 ^ (-64 : ℤ) := two_zpow_le.mpr (by decide)
  have hmost : (2 : ℚ) ^ (64 : ℤ) ≤ 2 ^ (500 : ℤ) := two_zpow_le.mpr (by decide)
  have hpow : (2 : ℚ) ^ (64 : ℤ) = 2 ^ 64 := zpow_natCast 2 64
  have hpow' : (2 : ℚ) ^ (-64 : ℤ) = 1 / 2 ^ 64 := by rw [zpow_neg, hpow, one_div]
  rw [hpow'] at hleast
  rw [hpow] at hmost
  exact ⟨hleast.trans hlow, hhigh.trans hmost⟩

/-- A double whose number is made up of an exponent and a significand stands for what these amount
to. -/
theorem Coded.standsFor {x : Float} {e : ℤ} {k : ℕ} (he : -1074 ≤ e) (hlow : 2 ^ 52 ≤ k)
    (hhigh : k ≤ 2 ^ 53) (h : Coded x.toModel.unpack ((e + 1074).toNat * 2 ^ 52 + k)) :
    StandsFor x (k * 2 ^ e) := by
  obtain ⟨m, e', hm, hunpack, hdigits, hnormal, hlow', hhigh', hcode⟩ := h
  rcases Nat.lt_or_eq_of_le hhigh with hless | rfl
  · obtain ⟨rfl, rfl⟩ : m = k ∧ e' = e := by omega
    exact ⟨m, e', hm, hunpack, hlow, hless, he, hhigh', rfl⟩
  · -- a significand of `2 ^ 53` has been carried over
    obtain ⟨rfl, rfl⟩ : m = 2 ^ 52 ∧ e' = e + 1 := by omega
    refine ⟨2 ^ 52, e + 1, hm, hunpack, le_refl _, by decide, by omega, hhigh', ?_⟩
    rw [zpow_add₀ (by norm_num)]
    push_cast
    ring

/-- What a double stands for is as close as the digit at which the number it is rounded to ends. -/
theorem Nearest.exists_close {x : Float} {q : ℚ} (h : Nearest x q) (unit : ℤ)
    (hq : q < (2 ^ 53 - 1) * 2 ^ unit) : ∃ v, StandsFor x v ∧ |q - v| ≤ 2 ^ unit / 2 := by
  obtain ⟨e, v, hstands, hrounded⟩ := h
  have hunit : (2 : ℚ) ^ e ≤ 2 ^ unit := two_zpow_le.mpr (hrounded.exponent_le hq)
  exact ⟨v, hstands, hrounded.close.trans (by linarith)⟩

/-! ## Quotients -/

/-- A quotient is rounded by half at most. -/
theorem roundHalfEven_near (num : ℕ) {den : ℕ} (hden : 0 < den) :
    |(num : ℚ) / den - roundHalfEven num den| ≤ 1 / 2 := by
  have hden' : (0 : ℚ) < den := by exact_mod_cast hden
  obtain ⟨hlow, hhigh⟩ := roundHalfEven_close num den hden
  have hlow' : (2 : ℚ) * num ≤ 2 * (den * roundHalfEven num den) + den := by exact_mod_cast hlow
  have hhigh' : (2 : ℚ) * (den * roundHalfEven num den) ≤ 2 * num + den := by
    exact_mod_cast hhigh
  rw [abs_le, neg_le_sub_iff_le_add, sub_le_iff_le_add', div_le_iff₀ hden', ← sub_le_iff_le_add,
    le_div_iff₀ hden']
  constructor <;> linarith

/-- A quotient in units of a last digit is rounded by half a unit at most. -/
theorem scaledRound_close (num : ℕ) {den : ℕ} (hden : 0 < den) (e : ℤ) :
    |(num / den : ℚ) - scaledRound num den e * 2 ^ e| ≤ 2 ^ e / 2 := by
  have hunit : (0 : ℚ) < 2 ^ e := by positivity
  -- the quotient in units
  have hscaled : |(num / den : ℚ) / 2 ^ e - scaledRound num den e| ≤ 1 / 2 := by
    unfold scaledRound
    simp only [Nat.pow_eq]
    split
    · rename_i hexp
      obtain ⟨n, rfl⟩ := Int.eq_ofNat_of_zero_le hexp
      have hclose := roundHalfEven_near num (show 0 < den * 2 ^ n by positivity)
      push_cast at hclose
      simpa [div_div] using hclose
    · rename_i hexp
      obtain ⟨n, hn⟩ := Int.eq_ofNat_of_zero_le (show 0 ≤ -e by omega)
      obtain rfl : e = -(n : ℤ) := by omega
      have hclose := roundHalfEven_near (num * 2 ^ n) hden
      push_cast at hclose
      have hsame : (num / den : ℚ) / 2 ^ (-(n : ℤ)) = num * 2 ^ n / den := by
        rw [zpow_neg, zpow_natCast]
        field_simp
      rw [hsame, neg_neg, Int.toNat_natCast]
      exact hclose
  have hfactor : (num / den : ℚ) - scaledRound num den e * 2 ^ e =
      ((num / den : ℚ) / 2 ^ e - scaledRound num den e) * 2 ^ e := by
    field_simp
  rw [hfactor, abs_mul, abs_of_pos hunit]
  have hmul := mul_le_mul_of_nonneg_right hscaled hunit.le
  linarith

/-- A quotient of at least `2 ^ 52` units is rounded to 53 digits or more. -/
theorem le_scaledRound (num : ℕ) {den : ℕ} (hden : 0 < den) {e : ℤ}
    (hlow : (2 : ℚ) ^ (52 + e) ≤ num / den) : 2 ^ 52 ≤ scaledRound num den e := by
  have hunit : (0 : ℚ) < 2 ^ e := by positivity
  have hclose := abs_le.mp (scaledRound_close num hden e)
  rw [zpow_add₀ (by norm_num)] at hlow
  have hless : ((2 ^ 52 : ℕ) : ℚ) < (scaledRound num den e + 1 : ℕ) := by
    refine lt_of_mul_lt_mul_right ?_ hunit.le
    push_cast
    linarith
  exact Nat.lt_succ_iff.mp (by exact_mod_cast hless)

/-- A quotient of less than `2 ^ 53` units is rounded to `2 ^ 53` at most. -/
theorem scaledRound_le (num : ℕ) {den : ℕ} (hden : 0 < den) {e : ℤ}
    (hhigh : (num / den : ℚ) < 2 ^ (53 + e)) : scaledRound num den e ≤ 2 ^ 53 := by
  have hunit : (0 : ℚ) < 2 ^ e := by positivity
  have hclose := abs_le.mp (scaledRound_close num hden e)
  rw [zpow_add₀ (by norm_num)] at hhigh
  have hless : (scaledRound num den e : ℚ) < (2 ^ 53 + 1 : ℕ) := by
    refine lt_of_mul_lt_mul_right ?_ hunit.le
    push_cast
    linarith
  exact Nat.lt_succ_iff.mp (by exact_mod_cast hless)

/-- A significand of 53 digits, or rounded up to `2 ^ 53`, and its exponent make up a double. -/
theorem exists_assemble {k : ℕ} {e : ℤ} (hlow : 2 ^ 52 ≤ k) (hhigh : k ≤ 2 ^ 53)
    (he : -1073 ≤ e) (he' : e ≤ 970) :
    ∃ x, assemble false k e = some x ∧ StandsFor x (k * 2 ^ e) := by
  have hcode : (e + 1074).toNat * 2 ^ 52 + k < 2047 * 2 ^ 52 := by omega
  rw [assemble_eq hlow (by omega), if_neg (by omega)]
  exact ⟨_, rfl, (coded_ofBits (by omega) hcode).standsFor (by omega) hlow hhigh⟩

/-- A whole number lies between two powers of two. -/
theorem log2_bounds {n : ℕ} (hn : n ≠ 0) :
    (2 : ℚ) ^ (Nat.log2 n : ℤ) ≤ n ∧ (n : ℚ) < 2 ^ ((Nat.log2 n : ℤ) + 1) := by
  constructor
  · rw [zpow_natCast]
    exact_mod_cast Nat.log2_self_le hn
  · have hless : n < 2 ^ (Nat.log2 n + 1) := Nat.lt_log2_self
    exact_mod_cast hless

/-- A quotient is near the power of two that the digits of its parts tell. -/
theorem scale_bounds {num den : ℕ} (hnum : num ≠ 0) (hden : den ≠ 0) {scale : ℤ}
    (hscale : (Nat.log2 num : ℤ) - (Nat.log2 den : ℤ) = scale) :
    (2 : ℚ) ^ (scale - 1) ≤ num / den ∧ (num / den : ℚ) < 2 ^ (scale + 1) := by
  obtain ⟨hnlow, hnhigh⟩ := log2_bounds hnum
  obtain ⟨hdlow, hdhigh⟩ := log2_bounds hden
  have hden' : (0 : ℚ) < den := by exact_mod_cast Nat.pos_of_ne_zero hden
  constructor
  · rw [le_div_iff₀ hden']
    calc (2 : ℚ) ^ (scale - 1) * den ≤ 2 ^ (scale - 1) * 2 ^ ((Nat.log2 den : ℤ) + 1) :=
          mul_le_mul_of_nonneg_left hdhigh.le (by positivity)
      _ = 2 ^ (Nat.log2 num : ℤ) := by
          rw [← zpow_add₀ (by norm_num)]
          congr 1
          omega
      _ ≤ num := hnlow
  · rw [div_lt_iff₀ hden']
    calc (num : ℚ) < 2 ^ ((Nat.log2 num : ℤ) + 1) := hnhigh
      _ = 2 ^ (scale + 1) * 2 ^ (Nat.log2 den : ℤ) := by
          rw [← zpow_add₀ (by norm_num)]
          congr 1
          omega
      _ ≤ 2 ^ (scale + 1) * den := mul_le_mul_of_nonneg_left hdlow (by positivity)

/-- Whether a quotient has 54 digits before the point when it is written in units. -/
theorem two_pow_le_floor_iff (num : ℕ) {den : ℕ} (hden : 0 < den) (low : ℤ) :
    2 ^ 53 ≤ (if 0 ≤ low then num / (den * 2 ^ low.toNat) else num * 2 ^ (-low).toNat / den) ↔
      (2 : ℚ) ^ (53 + low) ≤ num / den := by
  have hden' : (0 : ℚ) < den := by exact_mod_cast hden
  rw [le_div_iff₀ hden', zpow_add₀ (by norm_num)]
  split
  · rename_i hexp
    obtain ⟨n, rfl⟩ := Int.eq_ofNat_of_zero_le hexp
    rw [Int.toNat_natCast, Nat.le_div_iff_mul_le (by positivity), zpow_natCast, mul_assoc,
      mul_comm ((2 : ℚ) ^ n)]
    exact_mod_cast Iff.rfl
  · rename_i hexp
    obtain ⟨n, hn⟩ := Int.eq_ofNat_of_zero_le (show 0 ≤ -low by omega)
    obtain rfl : low = -(n : ℤ) := by omega
    rw [neg_neg, Int.toNat_natCast, Nat.le_div_iff_mul_le hden, zpow_neg, zpow_natCast,
      mul_right_comm, ← div_eq_mul_inv, div_le_iff₀ (by positivity)]
    exact_mod_cast Iff.rfl

/-- A quotient is rounded to 53 digits, and to fewer only at the least exponent. -/
theorem ofQuotient_digits (negative : Bool) {num den : ℕ} (hnum : num ≠ 0) (hden : 0 < den) :
    ∃ e : ℤ, ofQuotient negative num den = assemble negative (scaledRound num den e) e ∧
      -1074 ≤ e ∧ (num / den : ℚ) < 2 ^ (53 + e) ∧
        ((2 : ℚ) ^ (52 + e) ≤ num / den ∨ e = -1074) := by
  unfold ofQuotient
  rw [if_neg hnum]
  simp only [Nat.pow_eq]
  generalize hscale : (Nat.log2 num : ℤ) - (Nat.log2 den : ℤ) = scale
  obtain ⟨hlow, hhigh⟩ := scale_bounds hnum hden.ne' hscale
  generalize hleast : max (scale - 53) (-1074) = low
  have hfloor := two_pow_le_floor_iff num hden low
  by_cases htop : (2 : ℚ) ^ (53 + low) ≤ num / den
  · rw [if_pos (hfloor.mpr htop)]
    refine ⟨low + 1, rfl, by omega, hhigh.trans_le (two_zpow_le.mpr (by omega)), Or.inl ?_⟩
    rwa [show 52 + (low + 1) = 53 + low by omega]
  · rw [if_neg fun h => htop (hfloor.mp h)]
    refine ⟨low, rfl, by omega, not_le.mp htop, ?_⟩
    rcases Int.lt_or_le (-1074) low with hmore | hfew
    · left
      rwa [show 52 + low = scale - 1 by omega]
    · right
      omega

/-- Dividing whole numbers, as far as the quotient is not extreme, gives the nearest double. -/
theorem exists_ofQuotient {num den : ℕ} (hden : 0 < den) (hq : Ordinary (num / den)) :
    ∃ x, ofQuotient false num den = some x ∧ Nearest x (num / den) := by
  have hnum : num ≠ 0 := by
    rintro rfl
    rw [Nat.cast_zero, zero_div] at hq
    exact absurd hq.1 (not_le.mpr (by positivity))
  obtain ⟨e, hassemble, -, hhigh, hfull⟩ := ofQuotient_digits false hnum hden
  have habove := two_zpow_lt.mp (hq.1.trans_lt hhigh)
  have hlow := hfull.resolve_right (by omega)
  have hbelow := two_zpow_le.mp (hlow.trans hq.2)
  have hmany := le_scaledRound num hden hlow
  have hfew := scaledRound_le num hden hhigh
  obtain ⟨x, hx, hstands⟩ := exists_assemble (e := e) hmany hfew (by omega) (by omega)
  exact ⟨x, hassemble.trans hx, e, _, hstands, ⟨_, hmany, hfew, rfl⟩, scaledRound_close num hden e⟩

/-- A quotient below half a unit beyond the greatest double becomes a double. -/
theorem exists_ofQuotient_of_lt (negative : Bool) {num den : ℕ} (hden : 0 < den)
    (h : num < overflow * den) : ∃ x, ofQuotient negative num den = some x := by
  have hfew : ∀ k e, k < 2 ^ 52 → ∃ x, assemble negative k e = some x := by
    intro k e hk
    unfold assemble
    simp only [Nat.pow_eq]
    simp only [show k ≠ 2 ^ 53 by omega, if_false, hk, if_true]
    rw [if_neg (by omega)]
    exact ⟨_, rfl⟩
  rcases Nat.eq_zero_or_pos num with rfl | hnum
  · exact hfew 0 0 (by decide)
  obtain ⟨e, hassemble, hlow, hhigh, hfull⟩ := ofQuotient_digits negative hnum.ne' hden
  rw [hassemble]
  rcases Nat.lt_or_ge (scaledRound num den e) (2 ^ 52) with hk | hk
  · exact hfew _ e hk
  refine Option.ne_none_iff_exists'.mp fun hnone => ?_
  have hquotient : (num / den : ℚ) < (2 ^ 54 - 1) * 2 ^ (970 : ℤ) := by
    have hcast : (num : ℚ) < ((2 ^ 54 - 1 : ℕ) : ℚ) * 2 ^ 970 * den := by
      rw [overflow_eq] at h
      exact_mod_cast h
    rw [div_lt_iff₀ (by exact_mod_cast hden), zpow_ofNat]
    norm_num at hcast ⊢
    exact hcast
  have htop : ∀ a : ℤ, (2 : ℚ) ^ (a + 970) = 2 ^ a * 2 ^ (970 : ℤ) := fun a =>
    zpow_add₀ (by norm_num) a 970
  rcases (assemble_eq_none_iff hk (scaledRound_le num hden hhigh) hlow).mp hnone with
    hlarge | ⟨rfl, hcarry⟩
  · -- the quotient would have 1025 digits
    have hmany := (two_zpow_le.mpr (show 54 + 970 ≤ 52 + e by omega)).trans
      (hfull.resolve_right (by omega))
    have hunit : (0 : ℚ) < 2 ^ (970 : ℤ) := by positivity
    rw [htop, show (2 : ℚ) ^ (54 : ℤ) = 2 ^ 54 from zpow_ofNat 2 54] at hmany
    generalize (2 : ℚ) ^ (970 : ℤ) = half at hquotient hmany hunit
    linarith
  · -- it would have been rounded up to `2 ^ 1024`
    have hclose := (abs_le.mp (scaledRound_close num hden 971)).1
    rw [hcarry, show (971 : ℤ) = 1 + 970 by norm_num, htop, zpow_one] at hclose
    generalize (2 : ℚ) ^ (970 : ℤ) = half at hquotient hclose
    push_cast at hclose
    linarith

/-- A natural number of at most 52 digits is a double. -/
theorem exists_ofQuotient_one {n : ℕ} (hpos : 1 ≤ n) (hfew : n < 2 ^ 52) :
    ∃ x, ofQuotient false n 1 = some x ∧ StandsFor x n := by
  have hone : (1 : ℚ) ≤ n := by exact_mod_cast hpos
  have hmost : (n : ℚ) < 2 ^ 52 := by exact_mod_cast hfew
  have hcast : (n / (1 : ℕ) : ℚ) = n := by simp
  have hordinary : Ordinary (n / (1 : ℕ) : ℚ) := by
    rw [hcast]
    refine ordinary_of_le ?_ ?_ <;> linarith
  obtain ⟨x, hx, e, v, hstands, hrounded⟩ := exists_ofQuotient Nat.one_pos hordinary
  rw [hcast] at hrounded
  have hvalue : v = n := by
    have he : e ≤ 0 := hrounded.exponent_le (by rw [zpow_zero]; linarith)
    have hunits : (n : ℚ) = (n : ℤ) * 2 ^ (0 : ℤ) := by rw [zpow_zero, mul_one, Int.cast_natCast]
    rw [hrounded.eq_multiple he hunits, ← hunits]
  exact ⟨x, hx, hvalue ▸ hstands⟩

theorem exists_floatOfInt {n : ℤ} (hpos : 1 ≤ n) (hfew : n < 2 ^ 52) :
    ∃ x, floatOfInt n = .ok x ∧ StandsFor x n := by
  obtain ⟨k, rfl⟩ := Int.eq_ofNat_of_zero_le (show 0 ≤ n by omega)
  obtain ⟨x, hx, hstands⟩ := exists_ofQuotient_one (n := k) (by omega) (by omega)
  refine ⟨x, ?_, by exact_mod_cast hstands⟩
  unfold floatOfInt
  rw [decide_eq_false (by omega), Int.natAbs_natCast, hx]

theorem standsFor_ofNat {n : ℕ} (hpos : 1 ≤ n) (hfew : n < 2 ^ 52) :
    StandsFor (Scalar.ofNat n) n := by
  obtain ⟨x, hx, hstands⟩ := exists_ofQuotient_one hpos hfew
  have hlength : decimalLength n ≤ 16 := by
    unfold decimalLength
    split
    · omega
    · exact Nat.toDigits_length 10 n 16 (by omega) (by omega)
  have hdecimal : (Scalar.ofNat n : Float) = x := by
    show ofDecimal false n (-(0 : ℕ)) = x
    unfold ofDecimal
    simp only [Nat.cast_zero, neg_zero, add_zero, le_refl, if_true, Int.toNat_zero, Nat.pow_eq,
      Nat.pow_zero, Nat.mul_one, hx]
    rw [if_neg (by omega), if_neg (by omega)]
    rfl
  rwa [hdecimal]

/-- The bits of a double spell the number that it stands for. -/
theorem standsFor_ofBits {k : ℕ} {e : ℤ} (hlow : 2 ^ 52 ≤ k) (hhigh : k < 2 ^ 53) (he : -1074 ≤ e)
    (he' : e ≤ 970) :
    StandsFor (Float.ofBits (.ofNat ((e + 1074).toNat * 2 ^ 52 + k))) (k * 2 ^ e) :=
  (coded_ofBits (by omega) (by omega)).standsFor he hlow hhigh.le

end EntitySearch.Number
