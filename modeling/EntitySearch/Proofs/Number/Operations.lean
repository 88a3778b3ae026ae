import EntitySearch.Proofs.Number.Nearest
/-!
# Operations on doubles that stand for numbers

Products and sums of doubles stand for the exact results rounded to 53 digits (`StandsFor.mul`,
`StandsFor.add`). Rounding up to a whole number is exact (`StandsFor.ceil`), rounding to decimal
places takes the nearest decimal first (`StandsFor.roundPlaces`), and doubles are compared like the
numbers they stand for (`StandsFor.less_eq`, `StandsFor.same_eq`).
-/

namespace EntitySearch.Number

open Float.Model (Format UnpackedFloat totalExponent)
open Float.Model.UnpackedFloat

/-! ## Rounding a significand -/

/-- What has been shifted out of a significand is kept as the accuracy of the rest. -/
theorem shiftRight_exact (m k : ℕ) :
    ExtendedMantissa.ofMantissaAndAccuracy m .exact >>> k =
      .ofMantissaAndAccuracy (m / 2 ^ k) (accuracyOfFraction (m % 2 ^ k) (2 ^ k)) := by
  induction k with
  | zero =>
    rw [Nat.pow_zero, Nat.div_one, Nat.mod_one]
    rfl
  | succ k ih =>
    have hstep : ExtendedMantissa.ofMantissaAndAccuracy m .exact >>> (k + 1) =
        (ExtendedMantissa.ofMantissaAndAccuracy m .exact >>> k).shiftRightOne := rfl
    have hless : m % 2 ^ k < 2 ^ k := Nat.mod_lt m (Nat.two_pow_pos k)
    have hmod : m % 2 ^ (k + 1) = m % 2 ^ k + 2 ^ k * (m / 2 ^ k % 2) := by
      rw [Nat.pow_succ, Nat.mod_mul]
    rw [hstep, ih, hmod, Nat.pow_succ, ← Nat.div_div_eq_div_mul]
    generalize m % 2 ^ k = rest at hless
    generalize m / 2 ^ k = kept
    generalize 2 ^ k = unit at hless
    -- the accuracy says on which side of the middle the rest is, if there is one
    have hside : ∀ n d, accuracyOfFraction n d = if n = 0 then .exact
        else if 2 * n < d then .inexact .lt else if 2 * n = d then .inexact .eq
        else .inexact .gt := by
      intro n d
      unfold accuracyOfFraction
      split_ifs with hzero hlt heq
      · rfl
      · rw [Nat.compare_eq_lt.mpr hlt]
      · rw [Nat.compare_eq_eq.mpr heq]
      · rw [Nat.compare_eq_gt.mpr (by omega)]
    rw [hside, hside]
    rcases Nat.mod_two_eq_zero_or_one kept with hbit | hbit
    · rw [hbit, Nat.mul_zero, Nat.add_zero]
      split_ifs <;> first
        | omega
        | simp [ExtendedMantissa.shiftRightOne, ExtendedMantissa.ofMantissaAndAccuracy, hbit]
    · rw [hbit, Nat.mul_one]
      split_ifs <;> first
        | omega
        | simp [ExtendedMantissa.shiftRightOne, ExtendedMantissa.ofMantissaAndAccuracy, hbit]

/-- A significand with too many digits is rounded to 53 of them. -/
theorem coded_round_exact {m k : ℕ} {e : ℤ} (hm : Nat.log2 m = 52 + k) (hlow : -1074 ≤ e + k)
    (hhigh : e + k ≤ 970) :
    (2 ^ 52 ≤ roundHalfEven m (2 ^ k) ∧ roundHalfEven m (2 ^ k) ≤ 2 ^ 53) ∧
    Coded (roundWithAccuracy Format.binary64 .positive m e .exact)
      ((e + k + 1074).toNat * 2 ^ 52 + roundHalfEven m (2 ^ k)) := by
  have hne : m ≠ 0 := by
    rintro rfl
    rw [Nat.log2_zero] at hm
    omega
  have hpow : ∀ n, 2 ^ (n + k) = 2 ^ n * 2 ^ k := fun n => Nat.pow_add 2 n k
  have hleast : 2 ^ 52 ≤ m / 2 ^ k := by
    rw [Nat.le_div_iff_mul_le (Nat.two_pow_pos _), ← hpow, ← hm]
    exact Nat.log2_self_le hne
  have hmost : m / 2 ^ k < 2 ^ 53 := by
    have hless : m < 2 ^ (Nat.log2 m + 1) := Nat.lt_log2_self
    rw [hm, Nat.add_right_comm] at hless
    rw [Nat.div_lt_iff_lt_mul (Nat.two_pow_pos _), ← hpow]
    exact hless
  have hup := roundHalfEven_le m (2 ^ k)
  have hdown := div_le_roundHalfEven m (2 ^ k)
  have hbounds : 2 ^ 52 ≤ roundHalfEven m (2 ^ k) ∧ roundHalfEven m (2 ^ k) ≤ 2 ^ 53 := by omega
  refine ⟨hbounds, ?_⟩
  have hshift : shiftToTargetExponent Format.binary64 m e .exact =
      shiftToTargetExponent Format.binary64 (m / 2 ^ k) (e + k)
        (accuracyOfFraction (m % 2 ^ k) (2 ^ k)) := by
    have hamount : (Format.binary64.targetExponent (totalExponent m e) - e).toNat = k := by
      simp only [Format.targetExponent, totalExponent, Format.mantissaBits, Format.minExponent, hm]
      omega
    rw [shiftToTargetExponent_eq hmost hlow]
    unfold shiftToTargetExponent shiftToExponent
    simp only [hamount, shiftRight_exact]
  have hround : roundWithAccuracy Format.binary64 .positive m e .exact =
      roundWithAccuracy Format.binary64 .positive (m / 2 ^ k) (e + k)
        (accuracyOfFraction (m % 2 ^ k) (2 ^ k)) := by
    unfold roundWithAccuracy
    simp only [hshift]
  rw [hround]
  exact coded_roundWithAccuracy hmost hlow hhigh
    (roundToNearestEven_accuracyOfFraction m (Nat.two_pow_pos k)) (by omega) (Or.inl hbounds.1)
    hbounds.2

/-- A number with at least 53 digits, as far as it is not extreme, becomes the nearest double. -/
theorem nearest_round {x : Float} {m : ℕ} {e : ℤ} (hm : 2 ^ 52 ≤ m)
    (hq : Ordinary (m * 2 ^ e))
    (hx : x = Float.ofModel (Float.Model.pack
      (roundWithAccuracy Format.binary64 .positive m e .exact))) :
    Nearest x (m * 2 ^ e) := by
  have hne : m ≠ 0 := by omega
  obtain ⟨k, hk⟩ := Nat.exists_eq_add_of_le ((Nat.le_log2 hne).mpr hm)
  obtain ⟨hlow, hhigh⟩ := log2_bounds hne
  have hunit : (0 : ℚ) < 2 ^ e := by positivity
  have hrange : -1074 ≤ e + k ∧ e + k ≤ 970 := by
    have hbelow := hq.1.trans_lt (mul_lt_mul_of_pos_right hhigh hunit)
    have habove := (mul_le_mul_of_nonneg_right hlow hunit.le).trans hq.2
    rw [← zpow_add₀ (by norm_num), two_zpow_lt] at hbelow
    rw [← zpow_add₀ (by norm_num), two_zpow_le] at habove
    omega
  clear hq
  obtain ⟨⟨hleast, hmost⟩, hcoded⟩ := coded_round_exact hk hrange.1 hrange.2
  have hstands : StandsFor x (roundHalfEven m (2 ^ k) * 2 ^ (e + k)) := by
    refine Coded.standsFor hrange.1 hleast hmost ?_
    rw [hx]
    exact hcoded.of_pack
  refine ⟨e + k, _, hstands, ⟨_, hleast, hmost, rfl⟩, ?_⟩
  -- in units of the last digit the exact number is a quotient
  have hclose := scaledRound_close m (Nat.two_pow_pos k) 0
  simp only [scaledRound, le_refl, if_true, Int.toNat_zero, Nat.pow_eq, Nat.pow_zero,
    zpow_zero, mul_one, Nat.cast_pow, Nat.cast_ofNat] at hclose
  have hfactor : (m : ℚ) * 2 ^ e - roundHalfEven m (2 ^ k) * 2 ^ (e + k) =
      (m / 2 ^ k - roundHalfEven m (2 ^ k)) * 2 ^ (e + k) := by
    rw [zpow_add₀ (by norm_num), zpow_natCast]
    field_simp
  rw [hfactor, abs_mul, abs_of_pos (show (0 : ℚ) < 2 ^ (e + k) by positivity)]
  have hmul := mul_le_mul_of_nonneg_right hclose (show (0 : ℚ) ≤ 2 ^ (e + k) by positivity)
  linarith

/-! ## Products and sums -/

/-- Multiplying, as far as the product is not extreme, gives the nearest double. -/
theorem StandsFor.mul {x y : Float} {v w : ℚ} (hx : StandsFor x v) (hy : StandsFor y w)
    (hq : Ordinary (v * w)) : Nearest (x * y) (v * w) := by
  obtain ⟨m, e, hm, hunpack, hlow, hhigh, -, -, rfl⟩ := hx
  obtain ⟨m', e', hm', hunpack', hlow', hhigh', -, -, rfl⟩ := hy
  have hproduct : ((m * 2 ^ e * (m' * 2 ^ e') : ℚ)) = (m * m' : ℕ) * 2 ^ (e + e') := by
    rw [zpow_add₀ (by norm_num)]
    push_cast
    ring
  rw [hproduct] at hq ⊢
  refine nearest_round (le_trans (by omega) (Nat.mul_le_mul hlow hlow')) hq ?_
  show Float.ofModel (Float.Model.pack
    (UnpackedFloat.mul Format.binary64 x.toModel.unpack y.toModel.unpack)) = _
  rw [hunpack, hunpack']
  rfl

/-- A positive sum with at least 53 digits is rounded as it is. -/
theorem normalize_natCast {m : ℕ} (hm : 2 ^ 52 ≤ m) (e : ℤ) (s : Sign) :
    UnpackedFloat.normalize Format.binary64 m e s =
      roundWithAccuracy Format.binary64 .positive m e .exact := by
  have hpositive : compare (m : ℤ) 0 = .gt := by
    rw [compare_gt_iff_gt]
    omega
  -- there is no need for digits below the last one
  have hdigits : decreaseExponent m e (Format.binary64.targetExponent (totalExponent m e)) =
      (m, e) := by
    have hlog := (Nat.le_log2 (show m ≠ 0 by omega)).mpr hm
    have hamount : (e - Format.binary64.targetExponent (totalExponent m e)).toNat = 0 := by
      simp only [Format.targetExponent, totalExponent, Format.mantissaBits]
      omega
    simp only [decreaseExponent, hamount, Nat.shiftLeft_zero, Nat.cast_zero, sub_zero]
  have hround : UnpackedFloat.round Format.binary64 .positive m e =
      roundWithAccuracy Format.binary64 .positive m e .exact := by
    unfold UnpackedFloat.round
    simp only [hdigits]
  unfold UnpackedFloat.normalize
  rw [hpositive]
  exact hround

/-- Adding, as far as the sum is not extreme, gives the nearest double. -/
theorem StandsFor.add {x y : Float} {v w : ℚ} (hx : StandsFor x v) (hy : StandsFor y w)
    (hq : Ordinary (v + w)) : Nearest (x + y) (v + w) := by
  obtain ⟨m, e, hm, hunpack, hlow, hhigh, -, -, rfl⟩ := hx
  obtain ⟨m', e', hm', hunpack', hlow', hhigh', -, -, rfl⟩ := hy
  -- both significands at the smaller exponent
  have halign : ∀ (n : ℕ) (f : ℤ), min e e' ≤ f →
      (n * 2 ^ f : ℚ) = (n * 2 ^ (f - min e e').toNat : ℕ) * 2 ^ min e e' := by
    intro n f hf
    push_cast
    rw [mul_assoc, ← zpow_natCast, ← zpow_add₀ (by norm_num), Int.toNat_of_nonneg (by omega)]
    congr 2
    omega
  have hsum : (m * 2 ^ e + m' * 2 ^ e' : ℚ) =
      (m * 2 ^ (e - min e e').toNat + m' * 2 ^ (e' - min e e').toNat : ℕ) * 2 ^ min e e' := by
    rw [halign m e (min_le_left _ _), halign m' e' (min_le_right _ _), Nat.cast_add, add_mul]
  rw [hsum] at hq ⊢
  have hmany : 2 ^ 52 ≤ m * 2 ^ (e - min e e').toNat + m' * 2 ^ (e' - min e e').toNat := by
    have hgrow := Nat.le_mul_of_pos_right m (Nat.two_pow_pos (e - min e e').toNat)
    omega
  refine nearest_round hmany hq ?_
  show Float.ofModel (Float.Model.pack
    (UnpackedFloat.add Format.binary64 x.toModel.unpack y.toModel.unpack)) = _
  rw [hunpack, hunpack']
  unfold UnpackedFloat.add
  simp only [decreaseExponent, Nat.shiftLeft_eq, Sign.apply]
  rw [← Nat.cast_add, normalize_natCast hmany]

/-! ## What a double stands for -/

/-- What the fields of a double say. -/
theorem unpack_fields (x : Float) :
    (@unpackExponent Format.binary64 x.toBits.toBitVec).toNat = x.toBits.toNat / 2 ^ 52 % 2 ^ 11 ∧
    (@unpackMantissa Format.binary64 x.toBits.toBitVec).toNat = x.toBits.toNat % 2 ^ 52 ∧
    (@unpackSign Format.binary64 x.toBits.toBitVec).toNat = x.toBits.toNat / 2 ^ 63 := by
  have hbits : x.toBits.toBitVec.toNat = x.toBits.toNat := rfl
  refine ⟨?_, ?_, ?_⟩
  · simp [unpackExponent, Nat.shiftRight_eq_div_pow]
  · simp [unpackMantissa]
  · have hlt := x.toBits.toNat_lt
    have hbit : x.toBits.toNat / 2 ^ 63 < 2 := Nat.div_lt_of_lt_mul (by omega)
    simpa [unpackSign, Nat.shiftRight_eq_div_pow] using hbit

theorem StandsFor.parts {x : Float} {v : ℚ} (h : StandsFor x v) :
    ∃ (m : ℕ) (e : ℤ), Parts.ofFloat x = .finite false m e ∧ v = m * 2 ^ e := by
  obtain ⟨m, e, hm, hunpack, hlow, hhigh, -, -, rfl⟩ := h
  refine ⟨m, e, ?_, rfl⟩
  obtain ⟨hexponent, hmantissa, hsign⟩ := unpack_fields x
  have hbits : x.toModel.unpack = unpack Format.binary64 x.toBits.toBitVec := rfl
  have hbias : ((Format.binary64.exponentBias : ℕ) : ℤ) = 1023 := rfl
  rw [hbits] at hunpack
  unfold unpack at hunpack
  simp only at hunpack
  split at hunpack
  · split at hunpack <;> cases hunpack
  rename_i htop
  split at hunpack
  · -- a number with no more than 52 digits
    split at hunpack
    · cases hunpack
    · simp only [UnpackedFloat.finite.injEq] at hunpack
      obtain ⟨-, hdigits, -⟩ := hunpack
      have hfew := (@unpackMantissa Format.binary64 x.toBits.toBitVec).isLt
      omega
  · rename_i hzero
    simp only [UnpackedFloat.finite.injEq] at hunpack
    obtain ⟨hs, rfl, rfl⟩ := hunpack
    have hpositive : x.toBits.toNat / 2 ^ 63 ≠ 1 := by
      intro hone
      rw [← hsign] at hone
      have hbit : @unpackSign Format.binary64 x.toBits.toBitVec ≠ 0#1 := by
        intro heq
        rw [heq] at hone
        cases hone
      simp [Sign.ofBitVec, hbit] at hs
    have hnormal : x.toBits.toNat / 2 ^ 52 % 2 ^ 11 ≠ 2047 ∧
        x.toBits.toNat / 2 ^ 52 % 2 ^ 11 ≠ 0 := by
      constructor
      · intro heq
        exact htop (BitVec.eq_of_toNat_eq (hexponent.trans heq))
      · intro heq
        exact hzero (BitVec.eq_of_toNat_eq (hexponent.trans heq))
    unfold Parts.ofFloat
    simp only [Nat.pow_eq]
    rw [if_neg hnormal.1, if_neg hnormal.2, decide_eq_false hpositive, toNat_implicit, hmantissa,
      hexponent, hbias]
    congr 1

/-- A double stands for one number only. -/
theorem StandsFor.unique {x : Float} {v w : ℚ} (hv : StandsFor x v) (hw : StandsFor x w) :
    v = w := by
  obtain ⟨m, e, hparts, rfl⟩ := hv.parts
  obtain ⟨m', e', hparts', rfl⟩ := hw.parts
  rw [hparts] at hparts'
  cases hparts'
  rfl

/-- Numerator and denominator of a magnitude. -/
theorem magnitude_eq (m : ℕ) (e : ℤ) :
    ∃ num den : ℕ, magnitude m e = (num, den) ∧ 0 < den ∧ (m * 2 ^ e : ℚ) = num / den := by
  unfold magnitude
  simp only [Nat.pow_eq]
  split
  · rename_i he
    obtain ⟨n, rfl⟩ := Int.eq_ofNat_of_zero_le he
    refine ⟨_, _, rfl, Nat.one_pos, ?_⟩
    rw [Int.toNat_natCast, zpow_natCast]
    push_cast
    ring
  · rename_i he
    obtain ⟨n, hn⟩ := Int.eq_ofNat_of_zero_le (show 0 ≤ -e by omega)
    obtain rfl : e = -(n : ℤ) := by omega
    refine ⟨_, _, rfl, Nat.two_pow_pos _, ?_⟩
    rw [neg_neg, Int.toNat_natCast, zpow_neg, zpow_natCast]
    push_cast
    ring

/-- The least whole number that is not below a double. -/
theorem StandsFor.ceil {x : Float} {v : ℚ} (h : StandsFor x v) : ceilFloat x = .ok ⌈v⌉ := by
  obtain ⟨m, e, hparts, rfl⟩ := h.parts
  obtain ⟨num, den, hmagnitude, hden, hvalue⟩ := magnitude_eq m e
  have hden' : (0 : ℚ) < den := by exact_mod_cast hden
  have hdiv := Nat.div_add_mod (num + den - 1) den
  have hmod := Nat.mod_lt (num + den - 1) hden
  have hceil : ⌈(num / den : ℚ)⌉ = ((num + den - 1) / den : ℕ) := by
    generalize (num + den - 1) / den = c at hdiv
    rw [Int.ceil_eq_iff, lt_div_iff₀ hden', div_le_iff₀ hden']
    have hlow : den * c < num + den := by omega
    have hhigh : num ≤ den * c := by omega
    have hlow' : (den : ℚ) * c < num + den := by exact_mod_cast hlow
    have hhigh' : (num : ℚ) ≤ den * c := by exact_mod_cast hhigh
    push_cast
    constructor <;> linarith
  unfold ceilFloat
  rw [hparts, hvalue, hceil]
  simp only [hmagnitude, Bool.false_eq_true, if_false]

/-- Rounding to decimal places takes the nearest decimal and then the nearest double. -/
theorem StandsFor.roundPlaces {x : Float} {v : ℚ} (h : StandsFor x v) (places : ℕ) :
    ∃ k : ℕ, |v * 10 ^ places - k| ≤ 1 / 2 ∧
      (Ordinary (k / 10 ^ places) → Nearest (roundPlaces places x) (k / 10 ^ places)) := by
  obtain ⟨m, e, hparts, rfl⟩ := h.parts
  obtain ⟨num, den, hmagnitude, hden, hvalue⟩ := magnitude_eq m e
  refine ⟨roundHalfEven (num * 10 ^ places) den, ?_, ?_⟩
  · have hclose := roundHalfEven_near (num * 10 ^ places) hden
    push_cast at hclose
    rwa [hvalue, div_mul_eq_mul_div]
  · intro hq
    have hcast : ((10 : ℚ) ^ places) = ((10 ^ places : ℕ) : ℚ) := by push_cast; rfl
    rw [hcast] at hq ⊢
    obtain ⟨y, hy, hnearest⟩ := exists_ofQuotient (show 0 < 10 ^ places by positivity) hq
    unfold Number.roundPlaces
    simp only [hparts, hmagnitude, Nat.pow_eq, hy, Option.getD_some]
    exact hnearest

/-! ## Order -/

section Order

variable {x y : Float} {v w : ℚ} (hx : StandsFor x v) (hy : StandsFor y w)

/-- The digits of numbers are in the order of the numbers. -/
theorem digits_lt_of_lt {m m' : ℕ} {e e' : ℤ} (hlow : 2 ^ 52 ≤ m') (hhigh : m < 2 ^ 53)
    (h : e < e' ∨ e = e' ∧ m < m') : (m * 2 ^ e : ℚ) < m' * 2 ^ e' := by
  rcases h with he | ⟨rfl, hm⟩
  · have hmany : (m : ℚ) < 2 ^ 53 := by exact_mod_cast hhigh
    have hfew : (2 : ℚ) ^ 52 ≤ m' := by exact_mod_cast hlow
    calc (m * 2 ^ e : ℚ) < 2 ^ 53 * 2 ^ e := mul_lt_mul_of_pos_right hmany (by positivity)
      _ = 2 ^ 52 * 2 ^ (e + 1) := by
          rw [zpow_add₀ (by norm_num)]
          ring
      _ ≤ 2 ^ 52 * 2 ^ e' := by
          refine mul_le_mul_of_nonneg_left (two_zpow_le.mpr (by omega)) (by positivity)
      _ ≤ m' * 2 ^ e' := mul_le_mul_of_nonneg_right hfew (by positivity)
  · exact mul_lt_mul_of_pos_right (by exact_mod_cast hm) (by positivity)

include hx in
theorem StandsFor.isOrderly : Scalar.isOrderly x = true := by
  obtain ⟨m, e, hm, hunpack, -⟩ := hx
  unfold Scalar.isOrderly
  rw [same_eq_compare, hunpack]
  simp [UnpackedFloat.compare]

include hx hy

/-- The places of doubles are in the order of the numbers they stand for. -/
theorem StandsFor.place_lt_iff : place x < place y ↔ v < w := by
  obtain ⟨m, e, hm, hunpack, hlow, hhigh, -, -, rfl⟩ := hx
  obtain ⟨m', e', hm', hunpack', hlow', hhigh', -, -, rfl⟩ := hy
  have hplace : place x < place y ↔ e < e' ∨ e = e' ∧ m < m' := by
    unfold place
    rw [hunpack, hunpack']
    simp [unpackedPlace, lex_lt_iff]
  rw [hplace]
  refine ⟨digits_lt_of_lt hlow' hhigh, ?_⟩
  contrapose!
  rintro ⟨he, hm⟩
  rcases lt_or_eq_of_le he with hless | heq
  · exact (digits_lt_of_lt hlow hhigh' (Or.inl hless)).le
  · rcases Nat.lt_or_eq_of_le (hm heq.symm) with hless | hsame
    · exact (digits_lt_of_lt hlow hhigh' (Or.inr ⟨heq, hless⟩)).le
    · rw [heq, hsame]

theorem StandsFor.less_eq : Scalar.less x y = decide (v < w) := by
  rw [less_eq_place hx.isOrderly hy.isOrderly, Bool.eq_iff_iff, decide_eq_true_iff,
    decide_eq_true_iff]
  exact hx.place_lt_iff hy

theorem StandsFor.same_eq : Scalar.same x y = decide (v = w) := by
  rw [same_eq_place hx.isOrderly hy.isOrderly, Bool.eq_iff_iff, decide_eq_true_iff,
    decide_eq_true_iff, eq_iff_le_not_lt, eq_iff_le_not_lt, ← not_lt, ← not_lt,
    hx.place_lt_iff hy, hy.place_lt_iff hx]

end Order

end EntitySearch.Number
