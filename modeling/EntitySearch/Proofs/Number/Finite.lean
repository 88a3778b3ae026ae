import EntitySearch.Proofs.Number.Range
import EntitySearch.Number.Scalar
import EntitySearch.Proofs.Fallible
/-!
# Doubles that stand for numbers

A double is neither infinite nor undefined unless its exponent field consists of ones (`Finite`).
What rounding a quotient gives is such a double (`finite_of_ofQuotient`), and so is what remains
when such a double is multiplied by a small one (`Finite.mul_small`).
-/

namespace EntitySearch.Number

open Float.Model (Format UnpackedFloat totalExponent)
open Float.Model.UnpackedFloat

/-- A double stands for a number. -/
def Finite (x : Float) : Prop :=
  ∃ negative significand exponent, Parts.ofFloat x = .finite negative significand exponent

/-! ## Exponent fields -/

/-- The greatest exponent field is that of infinity and of the undefined double. -/
def topField (bits : BitVec 64) : Prop := bits.toNat / 2 ^ 52 % 2 ^ 11 = 2047

theorem unpackExponent_eq_neg_one_iff (bits : BitVec Format.binary64.numBits) :
    unpackExponent bits = -1#_ ↔ topField bits := by
  unfold topField unpackExponent
  rw [← BitVec.toNat_inj]
  simp [Nat.shiftRight_eq_div_pow]

theorem finite_iff (x : Float) : Finite x ↔ ¬ topField x.toBits.toBitVec := by
  unfold Finite topField Parts.ofFloat
  simp only [UInt64.toNat_toBitVec]
  split
  · rename_i htop
    -- the top field stands for the infinities and for what is undefined
    have hnot : ∀ parts : Parts, (∀ s m e, parts ≠ .finite s m e) →
        ((∃ s m e, parts = .finite s m e) ↔ ¬ x.toBits.toNat / 2 ^ 52 % 2 ^ 11 = 2047) := by
      intro parts hparts
      constructor
      · rintro ⟨s, m, e, heq⟩
        exact absurd heq (hparts s m e)
      · exact fun h => absurd htop h
    split
    · exact hnot _ (by simp)
    · exact hnot _ (by simp)
  · rename_i htop
    split
    · exact ⟨fun _ => htop, fun _ => ⟨_, _, _, rfl⟩⟩
    · exact ⟨fun _ => htop, fun _ => ⟨_, _, _, rfl⟩⟩

/-- An unpacked double is zero, or it has a significand of 53 digits and an exponent that is not too
large. -/
def Fits : UnpackedFloat → Prop
  | .zero _ => True
  | .finite _ m e _ => m < 2 ^ 53 ∧ e ≤ 971
  | _ => False

theorem fits_unpack {bits : BitVec Format.binary64.numBits} (h : ¬ topField bits) :
    Fits (unpack Format.binary64 bits) := by
  have htop : unpackExponent bits ≠ -1#_ := fun heq =>
    h ((unpackExponent_eq_neg_one_iff bits).mp heq)
  have hfield : (unpackExponent bits).toNat < 2047 := by
    have hlt := (unpackExponent bits).isLt
    have hne : (unpackExponent bits).toNat ≠ 2047 := fun heq => htop (BitVec.eq_of_toNat_eq heq)
    simp only [Format.binary64] at hlt
    omega
  unfold unpack
  simp only
  rw [if_neg htop]
  split
  · rename_i hzero
    split
    · trivial
    · have hlt : (unpackMantissa bits).toNat < 2 ^ 52 := (unpackMantissa bits).isLt
      refine ⟨by omega, ?_⟩
      rw [hzero]
      simp [Format.exponentBias]
  · refine ⟨(1#1 ++ unpackMantissa bits).isLt, ?_⟩
    simp only [Format.exponentBias]
    omega

/-- Packing keeps clear of the greatest exponent field if the exponent is not too large. -/
theorem not_topField_pack {u : UnpackedFloat} (hu : Fits u) :
    ¬ topField (pack Format.binary64 u) := by
  rw [← unpackExponent_eq_neg_one_iff, ← BitVec.toNat_inj]
  unfold pack
  cases u with
  | infinity s => exact hu.elim
  | notANumber => exact hu.elim
  | zero s =>
    simp only [packedZero, unpackExponent_packComponents]
    decide
  | finite s m e hm =>
    obtain ⟨_, he⟩ := hu
    simp only
    -- an exponent up to 971 does not overflow
    rw [if_neg (by simp only [Format.exponentBias]; omega)]
    split
    · rw [unpackExponent_packComponents, BitVec.toNat_ofNat]
      simp only [Format.exponentBias]
      intro h
      have hmod := Nat.mod_le (e + (2 ^ (11 - 1) - 1 : Nat) + (52 : Nat)).toNat (2 ^ 11)
      simp only [BitVec.neg_one_eq_allOnes, BitVec.toNat_allOnes] at h
      omega
    · rw [unpackExponent_packComponents]
      decide

/-! ## Rounding -/

theorem mantissa_shiftRight (em : ExtendedMantissa) (n : Nat) :
    (em >>> n).mantissa = em.mantissa / 2 ^ n := by
  induction n with
  | zero =>
    rw [Nat.pow_zero, Nat.div_one]
    rfl
  | succ n ih =>
    have hshift : (em >>> (n + 1)).mantissa = (em >>> n).mantissa / 2 := rfl
    rw [hshift, ih, Nat.div_div_eq_div_mul, ← Nat.pow_succ]

theorem roundedMantissa_le (em : ExtendedMantissa) : em.roundedMantissa ≤ em.mantissa + 1 := by
  rcases em with ⟨m, round, sticky⟩
  have hmod : m % 2 < 2 := Nat.mod_lt m (by decide)
  cases round <;> cases sticky <;>
    simp only [ExtendedMantissa.roundedMantissa, ExtendedMantissa.accuracy,
      Accuracy.roundToNearestEven]
  all_goals omega

/-- What is left of a significand at its target exponent has 53 digits. -/
theorem shiftToTargetExponent_bounds (m : Nat) (e : Int) :
    (shiftToTargetExponent Format.binary64 m e .exact).1.mantissa < 2 ^ 53 ∧
      (shiftToTargetExponent Format.binary64 m e .exact).2 =
        max e (max (Nat.log2 m + e - 52) (-1074)) := by
  have htarget : Format.binary64.targetExponent (totalExponent m e) =
      max (Nat.log2 m + e - 52) (-1074) := by
    simp only [Format.targetExponent, totalExponent, Format.mantissaBits, Format.minExponent]
    omega
  unfold shiftToTargetExponent shiftToExponent
  rw [htarget]
  simp only [mantissa_shiftRight, ExtendedMantissa.ofMantissaAndAccuracy]
  constructor
  · rw [Nat.div_lt_iff_lt_mul (Nat.two_pow_pos _), ← Nat.pow_add]
    exact Nat.lt_log2_self.trans_le (two_pow_le_two_pow (by omega))
  · omega

/-- Rounding gives a number if the exponent has room for the digits. -/
theorem fits_roundWithAccuracy {s : Sign} {m : Nat} {e : Int} (he : e ≤ 970)
    (hm : Nat.log2 m + e ≤ 1022) : Fits (roundWithAccuracy Format.binary64 s m e .exact) := by
  -- rounding shifts, rounds, and shifts once more in case of a carry
  obtain ⟨hfirst, hexp⟩ := shiftToTargetExponent_bounds m e
  have hround := roundedMantissa_le (shiftToTargetExponent Format.binary64 m e .exact).1
  unfold roundWithAccuracy
  generalize shiftToTargetExponent Format.binary64 m e .exact = first at hfirst hexp hround
  obtain ⟨hsecond, hexp'⟩ := shiftToTargetExponent_bounds first.1.roundedMantissa first.2
  -- rounding up has added one digit at most
  have hlog : Nat.log2 first.1.roundedMantissa ≤ 53 := by
    by_contra hlarge
    have hne : first.1.roundedMantissa ≠ 0 := by
      intro hzero
      rw [hzero] at hlarge
      exact hlarge (by decide)
    have hpow := (Nat.le_log2 hne).mp (show 54 ≤ Nat.log2 first.1.roundedMantissa by omega)
    omega
  simp only
  split
  · trivial
  · refine ⟨hsecond, ?_⟩
    omega

/-! ## Doubles -/

theorem finite_ofBits {bits : UInt64} (h : ¬ topField bits.toBitVec) :
    Finite (Float.ofBits bits) :=
  (finite_iff _).mpr (not_topField_pack (fits_unpack h))

theorem finite_of_assemble {negative : Bool} {significand : Nat} {exponent : Int} {x : Float}
    (h : assemble negative significand exponent = some x) : Finite x := by
  unfold assemble at h
  simp only at h
  generalize (if (if significand = 2 ^ 53 then (2 ^ 52, exponent + 1)
    else (significand, exponent)).1 < 2 ^ 52 then _ else _ : Nat) = magnitude at h
  split at h
  · cases h
  · cases h
    refine finite_ofBits ?_
    unfold topField
    rw [UInt64.toNat_toBitVec, UInt64.toNat_ofNat']
    simp only [Nat.pow_eq]
    split <;> omega

/-- Rounding a quotient gives a number unless the quotient is too large. -/
theorem finite_of_ofQuotient {negative : Bool} {num den : Nat} {x : Float}
    (h : ofQuotient negative num den = some x) : Finite x := by
  unfold ofQuotient at h
  split at h
  · exact finite_of_assemble h
  · exact finite_of_assemble h

theorem finite_of_floatOfInt {n : Int} {x : Float} (h : floatOfInt n = .ok x) : Finite x := by
  unfold floatOfInt at h
  split at h
  · rename_i hx
    cases h
    exact finite_of_ofQuotient hx
  · cases h

theorem Finite.roundPlaces {x : Float} (hx : Finite x) (places : Nat) :
    Finite (roundPlaces places x) := by
  obtain ⟨negative, m, e, hparts⟩ := hx
  unfold Number.roundPlaces
  rw [hparts]
  simp only
  cases hround : ofQuotient negative (roundHalfEven ((magnitude m e).1 * 10 ^ places)
    (magnitude m e).2) (10 ^ places) with
  | none => exact ⟨negative, m, e, hparts⟩
  | some y => exact finite_of_ofQuotient hround

theorem Finite.ceilFloat {x : Float} (hx : Finite x) : ∃ n, ceilFloat x = .ok n := by
  obtain ⟨negative, m, e, hparts⟩ := hx
  unfold Number.ceilFloat
  rw [hparts]
  exact ⟨_, rfl⟩

/-- A double is less than a half and not zero. -/
def isSmall (x : Float) : Bool :=
  match x.toModel.unpack with
  | .finite _ m e _ => decide (m < 2 ^ 53) && decide (e ≤ -54)
  | _ => false

theorem Finite.mul_small {x y : Float} (hx : Finite x) (hy : isSmall y = true) :
    Finite (x * y) := by
  refine (finite_iff _).mpr (not_topField_pack ?_)
  have hfits : Fits x.toModel.unpack := fits_unpack ((finite_iff x).mp hx)
  unfold isSmall at hy
  generalize x.toModel.unpack = u at hfits
  generalize y.toModel.unpack = v at hy
  cases v with
  | infinity s => simp at hy
  | notANumber => simp at hy
  | zero s => simp at hy
  | finite s' m' e' hm' =>
    simp only [Bool.and_eq_true, decide_eq_true_eq] at hy
    cases u with
    | infinity s => exact hfits.elim
    | notANumber => exact hfits.elim
    | zero s => trivial
    | finite s m e hm =>
      obtain ⟨hdigits, he⟩ := hfits
      refine fits_roundWithAccuracy (by omega) ?_
      -- the product has 106 digits at most
      have hprod : m * m' < 2 ^ 106 := by
        have hmul := Nat.mul_lt_mul'' hdigits hy.1
        rwa [← Nat.pow_add] at hmul
      have hlog := (Nat.log2_lt (Nat.mul_pos hm hm').ne').mpr hprod
      omega

end EntitySearch.Number
