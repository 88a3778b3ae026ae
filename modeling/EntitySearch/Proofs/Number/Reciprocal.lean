import EntitySearch.Proofs.Number.Codes
/-!
# Reciprocals in doubles

One divided by a double of at least one is a positive double, and the number it has decreases with
the divisor (`coded_reciprocal`, `reciprocalCode_anti`). One divided by growing whole numbers gives
doubles that never grow (`less_one_div`).
-/

namespace EntitySearch.Number

open Float.Model (Format UnpackedFloat totalExponent)
open Float.Model.UnpackedFloat

/-! ## Rounding a quotient of significands -/

/-- Rounding by what is known of the remainder of a quotient rounds the quotient. -/
theorem roundToNearestEven_accuracyOfFraction (num : Nat) {den : Nat} (hden : 0 < den) :
    (accuracyOfFraction (num % den) den).roundToNearestEven (num / den) = roundHalfEven num den := by
  have hmod := Nat.mod_lt num hden
  unfold accuracyOfFraction roundHalfEven
  simp only
  rcases Nat.lt_trichotomy (2 * (num % den)) den with hlt | heq | hgt
  · rw [if_pos hlt]
    split
    · rfl
    · rw [Nat.compare_eq_lt.mpr hlt]
      rfl
  · rw [if_neg (by omega), if_neg (by omega), if_neg (by omega), Nat.compare_eq_eq.mpr heq]
    unfold Accuracy.roundToNearestEven
    simp only
    split <;> omega
  · rw [if_neg (by omega), if_neg (by omega), if_pos hgt, Nat.compare_eq_gt.mpr hgt]
    rfl

theorem roundedMantissa_ofMantissaAndAccuracy (m : Nat) (accuracy : Accuracy) :
    (ExtendedMantissa.ofMantissaAndAccuracy m accuracy).roundedMantissa =
      accuracy.roundToNearestEven m := by
  rcases accuracy with _ | (_ | _ | _) <;> rfl

/-- A significand at its exponent stays as it is. -/
theorem shiftToTargetExponent_eq {m : Nat} {e : Int} (hm : m < 2 ^ 53) (he : -1074 ≤ e)
    (accuracy : Accuracy) : shiftToTargetExponent Format.binary64 m e accuracy =
      (ExtendedMantissa.ofMantissaAndAccuracy m accuracy, e) := by
  have hlog : Nat.log2 m ≤ 52 := by
    rcases Nat.eq_zero_or_pos m with rfl | hpos
    · decide
    · have hdigits := (Nat.log2_lt hpos.ne').mpr hm
      omega
  have hshift : (Format.binary64.targetExponent (totalExponent m e) - e).toNat = 0 := by
    simp only [Format.targetExponent, totalExponent, Format.mantissaBits, Format.minExponent]
    omega
  unfold shiftToTargetExponent shiftToExponent
  simp only [hshift]
  exact Prod.ext rfl (Int.add_zero e)

/-- A significand of `2 ^ 53` is carried over. -/
theorem shiftToTargetExponent_carry {e : Int} (he : -1074 ≤ e) :
    shiftToTargetExponent Format.binary64 (2 ^ 53) e .exact =
      (ExtendedMantissa.ofMantissaAndAccuracy (2 ^ 52) .exact, e + 1) := by
  have hshift : (Format.binary64.targetExponent (totalExponent (2 ^ 53) e) - e).toNat = 1 := by
    have hlog : Nat.log2 (2 ^ 53) = 53 := Nat.log2_two_pow
    simp only [Format.targetExponent, totalExponent, Format.mantissaBits, Format.minExponent, hlog]
    omega
  unfold shiftToTargetExponent shiftToExponent
  simp only [hshift]
  rfl

/-- Rounding a significand gives the double that has the number of the rounded one. -/
theorem coded_roundWithAccuracy {m rounded : Nat} {e : Int} {accuracy : Accuracy}
    (hm : m < 2 ^ 53) (hlow : -1074 ≤ e) (hhigh : e ≤ 970)
    (hround : accuracy.roundToNearestEven m = rounded) (hpos : 0 < rounded)
    (hnormal : 2 ^ 52 ≤ rounded ∨ e = -1074) (htop : rounded ≤ 2 ^ 53) :
    Coded (roundWithAccuracy Format.binary64 .positive m e accuracy)
      ((e + 1074).toNat * 2 ^ 52 + rounded) := by
  unfold roundWithAccuracy
  simp only [shiftToTargetExponent_eq hm hlow, roundedMantissa_ofMantissaAndAccuracy, hround]
  rcases Nat.lt_or_eq_of_le htop with hdigits | rfl
  · have hsame : (ExtendedMantissa.ofMantissaAndAccuracy rounded .exact).mantissa = rounded := rfl
    simp only [shiftToTargetExponent_eq hdigits hlow, hsame, dif_neg hpos.ne']
    exact ⟨_, _, _, rfl, hdigits, hnormal, hlow, by omega, by omega⟩
  · have hcarry : (ExtendedMantissa.ofMantissaAndAccuracy (2 ^ 52) .exact).mantissa = 2 ^ 52 := rfl
    simp only [shiftToTargetExponent_carry hlow, hcarry]
    rw [dif_neg (by decide)]
    exact ⟨_, _, _, rfl, by decide, Or.inl (le_refl _), by omega, by omega, by omega⟩

theorem coded_roundWithAccuracy_carry {e : Int} (hlow : -1074 ≤ e) (hhigh : e ≤ 970) :
    Coded (roundWithAccuracy Format.binary64 .positive (2 ^ 53) e .exact)
      ((e + 1074).toNat * 2 ^ 52 + 2 ^ 53) := by
  have hsame : (ExtendedMantissa.ofMantissaAndAccuracy (2 ^ 52) .exact).mantissa = 2 ^ 52 := rfl
  have hround : (ExtendedMantissa.ofMantissaAndAccuracy (2 ^ 52) .exact).roundedMantissa = 2 ^ 52 :=
    rfl
  unfold roundWithAccuracy
  simp only [shiftToTargetExponent_carry hlow, hround,
    shiftToTargetExponent_eq (show 2 ^ 52 < 2 ^ 53 by decide) (show -1074 ≤ e + 1 by omega), hsame]
  rw [dif_neg (by decide)]
  exact ⟨_, _, _, rfl, by decide, Or.inl (le_refl _), by omega, by omega, by omega⟩

/-! ## One divided by a double -/

/-- How many binary digits the dividend has behind its first one, for an exponent that is as far
below the greatest. -/
def dividendDigits (room : Nat) : Nat := min 105 room

/-- The number of one divided by a double with 53 digits whose exponent is `1074 - room`. -/
def reciprocalCode (room significand : Nat) : Nat :=
  (room - dividendDigits room) * 2 ^ 52 + roundHalfEven (2 ^ dividendDigits room) significand

/-- The quotient of a power of two by a significand of 53 digits. -/
theorem reciprocal_bounds {digits significand : Nat} (hdigits : 53 ≤ digits)
    (hlow : 2 ^ 52 ≤ significand) (hhigh : significand ≤ 2 ^ 53) :
    2 ^ (digits - 53) ≤ roundHalfEven (2 ^ digits) significand ∧
      roundHalfEven (2 ^ digits) significand ≤ 2 ^ (digits - 52) := by
  have hfirst : 2 ^ 53 * 2 ^ (digits - 53) = 2 ^ digits := by
    rw [← Nat.pow_add]
    congr 1
    omega
  have hsecond : 2 ^ 52 * 2 ^ (digits - 52) = 2 ^ digits := by
    rw [← Nat.pow_add]
    congr 1
    omega
  have hpos : 0 < significand := by omega
  constructor
  · rw [← roundHalfEven_mul (2 ^ (digits - 53)) (2 ^ 53) (by decide), hfirst]
    exact roundHalfEven_mono (by decide) hpos (Nat.mul_le_mul_left _ hhigh)
  · rw [← roundHalfEven_mul (2 ^ (digits - 52)) (2 ^ 52) (by decide), hsecond]
    exact roundHalfEven_mono hpos (by decide) (Nat.mul_le_mul_left _ hlow)

theorem reciprocalCode_bounds {room significand : Nat} (hroom : 103 ≤ room)
    (hlow : 2 ^ 52 ≤ significand) (hhigh : significand ≤ 2 ^ 53) :
    (room - dividendDigits room) * 2 ^ 52 + 2 ^ (dividendDigits room - 53) ≤
        reciprocalCode room significand ∧
      reciprocalCode room significand ≤
        (room - dividendDigits room) * 2 ^ 52 + 2 ^ (dividendDigits room - 52) := by
  have hdigits : 53 ≤ dividendDigits room := by
    unfold dividendDigits
    omega
  obtain ⟨hlower, hupper⟩ := reciprocal_bounds hdigits hlow hhigh
  exact ⟨Nat.add_le_add_left hlower _, Nat.add_le_add_left hupper _⟩

/-- The greater a double is, the smaller the number of its reciprocal. -/
theorem reciprocalCode_anti {room room' m m' : Nat} (hroom : 103 ≤ room) (hm : 2 ^ 52 ≤ m)
    (hm' : 2 ^ 52 ≤ m') (hdigits : m < 2 ^ 53) (hdigits' : m' < 2 ^ 53)
    (h : room < room' ∨ room = room' ∧ m' ≤ m) :
    reciprocalCode room m ≤ reciprocalCode room' m' := by
  rcases h with hless | ⟨rfl, hle⟩
  · have hupper := (reciprocalCode_bounds hroom hm hdigits.le).2
    have hlower := (reciprocalCode_bounds (hroom.trans hless.le) hm' hdigits'.le).1
    refine hupper.trans (le_trans ?_ hlower)
    clear hupper hlower
    -- only the two greatest exponents leave less room than the dividend needs
    have hlarge : ∀ {n : Nat}, 105 ≤ n → dividendDigits n = 105 := fun hn => Nat.min_eq_left hn
    have h103 : dividendDigits 103 = 103 := rfl
    have h104 : dividendDigits 104 = 104 := rfl
    rcases (show room = 103 ∨ room = 104 ∨ 105 ≤ room by omega) with rfl | rfl | hmany
    · rcases (show room' = 104 ∨ 105 ≤ room' by omega) with rfl | hmany'
      · rw [h103, h104]
      · rw [h103, hlarge hmany']
        simp only [Nat.reduceSub, Nat.reducePow]
        omega
    · rw [h104, hlarge (show 105 ≤ room' by omega)]
      simp only [Nat.reduceSub, Nat.reducePow]
      omega
    · rw [hlarge hmany, hlarge (show 105 ≤ room' by omega)]
      simp only [Nat.reduceSub, Nat.reducePow]
      omega
  · exact Nat.add_le_add_left (roundHalfEven_mono (by omega) (by omega)
      (Nat.mul_le_mul_left (2 ^ dividendDigits room) hle)) _

/-- One, unpacked. -/
def one : UnpackedFloat := .finite .positive (2 ^ 52) (-52) (by decide)

/-- The dividend has all its digits up to the exponent 969, and at the two greatest exponents as
many as there is room for. -/
theorem dividendDigits_cases {e : Int} (he : -52 ≤ e) (he' : e ≤ 971) :
    103 ≤ dividendDigits (1074 - e).toNat ∧
      (dividendDigits (1074 - e).toNat = 105 ∧ e ≤ 969 ∨
        dividendDigits (1074 - e).toNat < 105 ∧ dividendDigits (1074 - e).toNat = 1074 - e) := by
  unfold dividendDigits
  omega

/-- One is divided by a double by rounding a power of two divided by the significand. -/
theorem div_one {m : Nat} {e : Int} (hm : 0 < m) (hlow : 2 ^ 52 ≤ m) (hdigits : m < 2 ^ 53)
    (he : -52 ≤ e) (he' : e ≤ 971) :
    div Format.binary64 one (.finite .positive m e hm) =
      roundWithAccuracy Format.binary64 .positive (2 ^ dividendDigits (1074 - e).toNat / m)
        (-e - dividendDigits (1074 - e).toNat)
        (accuracyOfFraction (2 ^ dividendDigits (1074 - e).toNat % m) m) := by
  have hlog : Nat.log2 m = 52 := (Nat.log2_eq_iff (by omega)).mpr ⟨hlow, hdigits⟩
  have hone : Nat.log2 (2 ^ 52) = 52 := Nat.log2_two_pow
  have hexponent : min (-52 - e) (Format.binary64.targetExponent
      (totalExponent (2 ^ 52) (-52) - totalExponent m e)) =
        -e - dividendDigits (1074 - e).toNat := by
    simp only [Format.targetExponent, totalExponent, Format.mantissaBits, Format.minExponent, hlog,
      hone, dividendDigits]
    omega
  have hmany := (dividendDigits_cases he he').1
  have hshift : (-52 - e - (-e - (dividendDigits (1074 - e).toNat : ℤ))).toNat =
      dividendDigits (1074 - e).toNat - 52 := by omega
  have hcore : divCore Format.binary64 (2 ^ 52) (-52) m e =
      (2 ^ dividendDigits (1074 - e).toNat / m, -e - dividendDigits (1074 - e).toNat,
        accuracyOfFraction (2 ^ dividendDigits (1074 - e).toNat % m) m) := by
    unfold divCore
    simp only [hexponent, hshift, Nat.shiftLeft_eq, ← Nat.pow_add,
      Nat.add_sub_cancel' (show 52 ≤ dividendDigits (1074 - e).toNat by omega)]
  unfold div one
  simp only [hcore]
  rfl

/-- The reciprocal of a double of at least one. -/
theorem coded_reciprocal {m : Nat} {e : Int} (hm : 0 < m) (hlow : 2 ^ 52 ≤ m) (hdigits : m < 2 ^ 53)
    (he : -52 ≤ e) (he' : e ≤ 971) :
    Coded (div Format.binary64 one (.finite .positive m e hm))
      (reciprocalCode (1074 - e).toNat m) := by
  obtain ⟨hmany, hroomy⟩ := dividendDigits_cases he he'
  have hroom : ((1074 - e).toNat - dividendDigits (1074 - e).toNat : ℕ) =
      (-e - dividendDigits (1074 - e).toNat + 1074).toNat := by omega
  obtain ⟨hlower, hupper⟩ := reciprocal_bounds (show 53 ≤ dividendDigits (1074 - e).toNat by omega)
    hlow hdigits.le
  rw [div_one hm hlow hdigits he he']
  unfold reciprocalCode
  rw [hroom]
  clear hroom
  generalize dividendDigits (1074 - e).toNat = digits at *
  have hround := roundToNearestEven_accuracyOfFraction (2 ^ digits) hm
  have hpos : 0 < roundHalfEven (2 ^ digits) m := (Nat.two_pow_pos _).trans_le hlower
  rcases hroomy with ⟨rfl, hless⟩ | ⟨hless, hexact⟩
  · rcases Nat.eq_or_lt_of_le hlow with rfl | hmore
    · -- the reciprocal of a power of two is exact, with a digit more
      have hquotient : roundHalfEven (2 ^ 105) (2 ^ 52) = 2 ^ 53 :=
        roundHalfEven_mul (2 ^ 53) (2 ^ 52) (by decide)
      rw [hquotient]
      exact coded_roundWithAccuracy_carry (by omega) (by omega)
    · have hfloor : 2 ^ 105 / m < 2 ^ 53 := by
        rw [Nat.div_lt_iff_lt_mul hm]
        omega
      exact coded_roundWithAccuracy hfloor (by omega) (by omega) hround hpos (Or.inl hlower) hupper
  · have hpow : 2 ^ digits ≤ 2 ^ 104 := two_pow_le_two_pow (by omega)
    have hfloor : 2 ^ digits / m < 2 ^ 53 := by
      rw [Nat.div_lt_iff_lt_mul hm]
      omega
    have htop : 2 ^ (digits - 52) ≤ 2 ^ 53 := two_pow_le_two_pow (by omega)
    exact coded_roundWithAccuracy hfloor (by omega) (by omega) hround hpos (Or.inr (by omega))
      (hupper.trans htop)

/-! ## One divided by whole numbers -/

theorem unpack_one : (Scalar.ofNat 1 : Float).toModel.unpack = one := by
  have hbits : (Scalar.ofNat 1 : Float) = Float.ofBits 0x3FF0000000000000 := by decide +kernel
  rw [hbits]
  rfl

/-- One divided by a positive whole number that does not overflow. -/
theorem coded_one_div {n : Int} (hn : 1 ≤ n) {x : Float}
    (h : Scalar.divInt (Scalar.ofNat 1) n = .ok x) :
    ∃ (m : ℕ) (e : ℤ), 2 ^ 52 ≤ m ∧ m < 2 ^ 53 ∧ e ≤ 971 ∧
      (intCode n.toNat : ℤ) = (e + 1074) * 2 ^ 52 + m ∧
      Coded x.toModel.unpack (reciprocalCode (1074 - e).toNat m) := by
  obtain ⟨divisor, hdivisor, h⟩ := bind_eq_ok.mp h
  rw [if_neg (by omega)] at h
  cases h
  obtain ⟨⟨m, e, hm, hunpack, hdigits, hnormal, hlow, hhigh, hcode⟩, hsize⟩ :=
    coded_floatOfInt hn hdivisor
  have hmany : 2 ^ 52 ≤ m := by omega
  refine ⟨m, e, hmany, hdigits, hhigh, hcode, ?_⟩
  have hreciprocal := coded_reciprocal hm hmany hdigits (show -52 ≤ e by omega) hhigh
  rw [← hunpack, ← unpack_one] at hreciprocal
  exact hreciprocal.of_pack

/-- One divided by a greater whole number is not greater. -/
theorem less_one_div {n n' : Int} (hn : 1 ≤ n) (hle : n ≤ n') {x x' : Float}
    (h : Scalar.divInt (Scalar.ofNat 1) n = .ok x)
    (h' : Scalar.divInt (Scalar.ofNat 1) n' = .ok x') :
    Scalar.isOrderly x = true ∧ Scalar.less x x' = false := by
  obtain ⟨m, e, hlow, hdigits, hhigh, hcode, hcoded⟩ := coded_one_div hn h
  obtain ⟨m', e', hlow', hdigits', hhigh', hcode', hcoded'⟩ := coded_one_div (hn.trans hle) h'
  have hmono := intCode_mono (show 1 ≤ n.toNat by omega) (show n.toNat ≤ n'.toNat by omega)
  have hdivisors : (1074 - e').toNat < (1074 - e).toNat ∨
      (1074 - e').toNat = (1074 - e).toNat ∧ m ≤ m' := by omega
  have hanti := reciprocalCode_anti (show 103 ≤ (1074 - e').toNat by omega) hlow' hlow hdigits'
    hdigits hdivisors
  refine ⟨hcoded.isOrderly, ?_⟩
  rw [less_eq_place hcoded.isOrderly hcoded'.isOrderly, decide_eq_false_iff_not, not_lt]
  exact hcoded'.place_le hcoded hanti

end EntitySearch.Number
