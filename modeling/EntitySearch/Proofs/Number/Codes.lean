import EntitySearch.Proofs.Number.Comparison
import EntitySearch.Proofs.Number.Finite
/-!
# Positive doubles in order

The positive doubles are numbered in their order (`Coded`): the number that their bits spell is also
what exponent and significand amount to. A whole number becomes a double whose number does not
decrease with it (`coded_floatOfInt`, `intCode_mono`).
-/

namespace EntitySearch.Number

open Float.Model (Format UnpackedFloat)
open Float.Model.UnpackedFloat

/-! ## Rounding keeps the order -/

/-- Rounding to a whole number keeps the order of quotients. -/
theorem roundHalfEven_mono {num den num' den' : Nat} (hden : 0 < den) (hden' : 0 < den')
    (h : num * den' ≤ num' * den) : roundHalfEven num den ≤ roundHalfEven num' den' := by
  have hfirst := Nat.div_add_mod num den
  have hsecond := Nat.div_add_mod num' den'
  have hup := roundHalfEven_le num den
  have hdown := div_le_roundHalfEven num' den'
  rcases Nat.lt_trichotomy (num / den) (num' / den') with hlt | heq | hgt
  · omega
  · -- with the same floor the remainders decide, and they are in the same order
    have hrest : num % den * den' ≤ num' % den' * den := by
      rw [← hfirst, ← hsecond, heq, Nat.add_mul, Nat.add_mul, Nat.mul_right_comm den,
        Nat.mul_right_comm den', Nat.mul_comm den' den] at h
      exact Nat.le_of_add_le_add_left h
    have htie : den ≤ 2 * (num % den) → den' ≤ 2 * (num' % den') := by
      intro hle
      refine Nat.le_of_mul_le_mul_right ?_ hden
      calc den' * den ≤ den' * (2 * (num % den)) := Nat.mul_le_mul_left _ hle
        _ = 2 * (num % den * den') := by ring
        _ ≤ 2 * (num' % den' * den) := Nat.mul_le_mul_left _ hrest
        _ = 2 * (num' % den') * den := by ring
    have habove : den < 2 * (num % den) → den' < 2 * (num' % den') := by
      intro hlt
      refine Nat.lt_of_mul_lt_mul_right (a := den) ?_
      calc den' * den < den' * (2 * (num % den)) := Nat.mul_lt_mul_of_pos_left hlt hden'
        _ = 2 * (num % den * den') := by ring
        _ ≤ 2 * (num' % den' * den) := Nat.mul_le_mul_left _ hrest
        _ = 2 * (num' % den') * den := by ring
    unfold roundHalfEven
    simp only [heq]
    split_ifs <;> omega
  · -- the quotients would be in the opposite order
    exfalso
    have hlarge : den * (num' / den' + 1) ≤ num := by
      rw [Nat.mul_comm]
      exact (Nat.le_div_iff_mul_le hden).mp hgt
    have hsmall : num' < den' * (num' / den' + 1) := Nat.lt_mul_div_succ num' hden'
    have hcontra : num' * den < num * den' := by
      calc num' * den < den' * (num' / den' + 1) * den := Nat.mul_lt_mul_of_pos_right hsmall hden
        _ = den * (num' / den' + 1) * den' := by ring
        _ ≤ num * den' := Nat.mul_le_mul_right _ hlarge
    omega

/-! ## Packing and unpacking -/

theorem unpackSign_packComponents {spec : Format} (s : Sign) (exponent : BitVec spec.exponentBits)
    (mantissa : BitVec spec.mantissaBitsWithoutImplicit) :
    unpackSign (packComponents spec s exponent mantissa) = s.toBitVec := by
  refine BitVec.eq_of_getLsbD_eq fun i hi => ?_
  obtain rfl : i = 0 := by omega
  simp [unpackSign, packComponents, BitVec.getLsbD_append, BitVec.getElem_append]

/-- A one in front of 52 digits. -/
theorem toNat_implicit (fraction : BitVec 52) : (1#1 ++ fraction).toNat = 2 ^ 52 + fraction.toNat := by
  rw [BitVec.toNat_append, ← Nat.shiftLeft_add_eq_or_of_lt fraction.isLt, Nat.shiftLeft_eq]
  rfl

/-- Packing and unpacking a number with 53 digits. -/
theorem unpack_pack_normal {m : Nat} {e : Int} (hm : 0 < m) (hlow : 2 ^ 52 ≤ m)
    (hdigits : m < 2 ^ 53) (he : -1074 ≤ e) (he' : e ≤ 971) :
    unpack Format.binary64 (pack Format.binary64 (.finite .positive m e hm)) =
      .finite .positive m e hm := by
  have hlog : Nat.log2 m = 52 := (Nat.log2_eq_iff (by omega)).mpr ⟨hlow, hdigits⟩
  have hbiased : (e + (Format.binary64.exponentBias : ℤ) + (52 : ℕ)).toNat = (e + 1075).toNat := by
    simp only [Format.exponentBias]
    omega
  have hfield : (BitVec.ofNat 11 (e + 1075).toNat).toNat = (e + 1075).toNat := by
    rw [BitVec.toNat_ofNat]
    omega
  have hdigit : (1#1 ++ BitVec.ofNat 52 m).toNat = m := by
    rw [toNat_implicit, BitVec.toNat_ofNat]
    omega
  have htop : BitVec.ofNat 11 (e + 1075).toNat ≠ -1#_ := by
    intro heq
    have hnat := congrArg BitVec.toNat heq
    rw [hfield, BitVec.neg_one_eq_allOnes, BitVec.toNat_allOnes] at hnat
    omega
  have hzero : BitVec.ofNat 11 (e + 1075).toNat ≠ 0#_ := by
    intro heq
    have hnat := congrArg BitVec.toNat heq
    rw [hfield, BitVec.toNat_zero] at hnat
    omega
  unfold pack
  simp only [hlog, hbiased]
  rw [if_neg (by omega), if_pos (show 52 + 1 = Format.binary64.mantissaBits from rfl)]
  unfold unpack
  simp only [unpackMantissa_packComponents, unpackExponent_packComponents,
    unpackSign_packComponents, if_neg htop, if_neg hzero, hdigit, hfield]
  congr 1
  simp only [Format.exponentBias]
  omega

/-- Packing and unpacking a number at the least exponent with fewer digits. -/
theorem unpack_pack_subnormal {m : Nat} (hm : 0 < m) (hdigits : m < 2 ^ 52) :
    unpack Format.binary64 (pack Format.binary64 (.finite .positive m (-1074) hm)) =
      .finite .positive m (-1074) hm := by
  have hlog : Nat.log2 m + 1 ≠ Format.binary64.mantissaBits := by
    have hbits : Format.binary64.mantissaBits = 53 := rfl
    have hsmall := (Nat.log2_lt (by omega)).mpr hdigits
    omega
  have hdigit : (BitVec.ofNat 52 m).toNat = m := by
    rw [BitVec.toNat_ofNat]
    omega
  have hnone : BitVec.ofNat 52 m ≠ 0#_ := by
    intro heq
    have hnat := congrArg BitVec.toNat heq
    rw [hdigit, BitVec.toNat_zero] at hnat
    omega
  unfold pack
  simp only
  rw [if_neg (by decide), if_neg hlog]
  unfold unpack
  simp only [unpackMantissa_packComponents, unpackExponent_packComponents,
    unpackSign_packComponents, dif_neg hnone, hdigit]
  rfl

/-! ## Numbered doubles -/

/-- An unpacked double is positive and in canonical form, with 53 digits or at the least exponent,
and has a number among the positive doubles. -/
def Coded (u : UnpackedFloat) (code : Nat) : Prop :=
  ∃ m e hm, u = .finite .positive m e hm ∧ m < 2 ^ 53 ∧ (2 ^ 52 ≤ m ∨ e = -1074) ∧
    -1074 ≤ e ∧ e ≤ 971 ∧ (code : ℤ) = (e + 1074) * 2 ^ 52 + m

namespace Coded

variable {u v : UnpackedFloat} {c d : Nat}

/-- The numbers of doubles are in the order of their places. -/
theorem place_le (hu : Coded u c) (hv : Coded v d) (h : c ≤ d) :
    unpackedPlace u ≤ unpackedPlace v := by
  obtain ⟨m, e, hm, rfl, hdigits, hnormal, hlow, hhigh, hc⟩ := hu
  obtain ⟨m', e', hm', rfl, hdigits', hnormal', hlow', hhigh', hd⟩ := hv
  rw [← not_lt]
  unfold unpackedPlace
  rw [lex_lt_iff, lex_lt_iff]
  omega

theorem unpack_pack (hu : Coded u c) :
    unpack Format.binary64 (pack Format.binary64 u) = u := by
  obtain ⟨m, e, hm, rfl, hdigits, hnormal, hlow, hhigh, _⟩ := hu
  rcases Nat.lt_or_ge m (2 ^ 52) with hfew | hmany
  · obtain rfl : e = -1074 := by omega
    exact unpack_pack_subnormal hm hfew
  · exact unpack_pack_normal hm hmany hdigits hlow hhigh

/-- What is packed unpacks to the same. -/
theorem of_pack (hu : Coded u c) : Coded (Float.ofModel (Float.Model.pack u)).toModel.unpack c := by
  have hsame : (Float.ofModel (Float.Model.pack u)).toModel.unpack = u := hu.unpack_pack
  rwa [hsame]

theorem isOrderly {x : Float} (hx : Coded x.toModel.unpack c) : Scalar.isOrderly x = true := by
  obtain ⟨m, e, hm, hfinite, _⟩ := hx
  unfold Scalar.isOrderly
  rw [same_eq_compare, hfinite]
  simp [UnpackedFloat.compare]

end Coded

/-- The bits of a positive double with 53 digits spell its number. -/
theorem coded_unpack (bits : BitVec 64) (hlow : 2 ^ 52 ≤ bits.toNat)
    (hhigh : bits.toNat < 2047 * 2 ^ 52) : Coded (unpack Format.binary64 bits) bits.toNat := by
  have hexponent : (@unpackExponent Format.binary64 bits).toNat =
      bits.toNat / 2 ^ 52 := by
    unfold unpackExponent
    simp [Nat.shiftRight_eq_div_pow]
    omega
  have hmantissa : (@unpackMantissa Format.binary64 bits).toNat =
      bits.toNat % 2 ^ 52 := by
    unfold unpackMantissa
    simp
  have hsign : @unpackSign Format.binary64 bits = 0#1 := by
    unfold unpackSign
    rw [← BitVec.toNat_inj]
    simp [Nat.shiftRight_eq_div_pow]
    omega
  have htop : @unpackExponent Format.binary64 bits ≠ -1#_ := by
    intro heq
    have hnat := congrArg BitVec.toNat heq
    have htopField : 2 ^ Format.binary64.exponentBits - 1 = 2047 := rfl
    rw [hexponent, BitVec.neg_one_eq_allOnes, BitVec.toNat_allOnes, htopField] at hnat
    omega
  have hzero : @unpackExponent Format.binary64 bits ≠ 0#_ := by
    intro heq
    have hnat := congrArg BitVec.toNat heq
    rw [hexponent, BitVec.toNat_zero] at hnat
    omega
  have hdigits : (1#1 ++ @unpackMantissa Format.binary64 bits).toNat =
      2 ^ 52 + bits.toNat % 2 ^ 52 := by
    rw [toNat_implicit, hmantissa]
  have hbias : ((Format.binary64.exponentBias : ℕ) : ℤ) = 1023 := rfl
  unfold unpack
  simp only [if_neg htop, if_neg hzero, hsign]
  refine ⟨_, _, _, rfl, ?_⟩
  rw [hdigits, hexponent, hbias]
  omega

theorem coded_ofBits {c : Nat} (hlow : 2 ^ 52 ≤ c) (hhigh : c < 2047 * 2 ^ 52) :
    Coded (Float.ofBits (.ofNat c)).toModel.unpack c := by
  have hbits : (UInt64.ofNat c).toBitVec.toNat = c := by
    rw [UInt64.toNat_toBitVec, UInt64.toNat_ofNat']
    omega
  have hcoded := coded_unpack (UInt64.ofNat c).toBitVec (by rwa [hbits]) (by rwa [hbits])
  rw [hbits] at hcoded
  exact hcoded.of_pack

/-! ## Whole numbers -/

/-- A significand that has its 53 digits, or has been rounded up to `2 ^ 53`, and its exponent make
up the number of a double. -/
theorem assemble_eq {significand : Nat} {exponent : Int} (hlow : 2 ^ 52 ≤ significand)
    (hexp : -1074 ≤ exponent) :
    assemble false significand exponent =
      if 2047 * 2 ^ 52 ≤ (exponent + 1074).toNat * 2 ^ 52 + significand then none
      else some (Float.ofBits (.ofNat ((exponent + 1074).toNat * 2 ^ 52 + significand))) := by
  have hbits : ∀ m : Nat, ∀ e : Int, 2 ^ 52 ≤ m → -1074 ≤ e →
      (e + 1075).toNat * 2 ^ 52 + (m - 2 ^ 52) = (e + 1074).toNat * 2 ^ 52 + m := by
    intro m e hm he
    omega
  unfold assemble
  simp only [Nat.pow_eq]
  -- carrying `2 ^ 53` over leaves the number as it is
  by_cases hcarry : significand = 2 ^ 53
  · have hnumber : (exponent + 1 + 1075).toNat * 2 ^ 52 + (2 ^ 52 - 2 ^ 52) =
        (exponent + 1074).toNat * 2 ^ 52 + 2 ^ 53 := by omega
    simp only [hcarry, if_true, lt_irrefl, if_false, hnumber, Bool.false_eq_true]
    rfl
  · simp only [hcarry, if_false, not_lt.mpr hlow, hbits _ _ hlow hexp, Bool.false_eq_true]
    rfl

/-- The number of the double nearest to a positive whole number. -/
def intCode (n : Nat) : Nat :=
  (Nat.log2 n + 1022) * 2 ^ 52 + scaledRound n 1 ((Nat.log2 n : Int) - 52)

theorem scaledRound_mono {n n' den : Nat} (hden : 0 < den) (exponent : Int) (h : n ≤ n') :
    scaledRound n den exponent ≤ scaledRound n' den exponent := by
  unfold scaledRound
  split
  · have hpos : 0 < den * Nat.pow 2 exponent.toNat := Nat.mul_pos hden (Nat.two_pow_pos _)
    exact roundHalfEven_mono hpos hpos (Nat.mul_le_mul_right _ h)
  · exact roundHalfEven_mono hden hden (Nat.mul_le_mul_right _ (Nat.mul_le_mul_right _ h))

theorem intCode_mono {n n' : Nat} (hn : 1 ≤ n) (h : n ≤ n') : intCode n ≤ intCode n' := by
  have hlog : Nat.log2 n ≤ Nat.log2 n' :=
    (Nat.le_log2 (by omega)).mpr ((Nat.log2_self_le (by omega)).trans h)
  unfold intCode
  rcases Nat.lt_or_eq_of_le hlog with hlt | heq
  · have hfirst := (scaledRound_bounds (show n ≠ 0 by omega)).2
    have hsecond := (scaledRound_bounds (show n' ≠ 0 by omega)).1
    omega
  · have hround := scaledRound_mono Nat.one_pos ((Nat.log2 n : Int) - 52) h
    rw [← heq]
    omega

theorem coded_floatOfInt {n : Int} (hn : 1 ≤ n) {x : Float} (h : floatOfInt n = .ok x) :
    Coded x.toModel.unpack (intCode n.toNat) ∧ 1023 * 2 ^ 52 ≤ intCode n.toNat := by
  have hpos : n.toNat ≠ 0 := by omega
  have hnat : n.natAbs = n.toNat := by omega
  obtain ⟨hlow, hhigh⟩ := scaledRound_bounds hpos
  have hcode : ((Nat.log2 n.toNat : Int) - 52 + 1074).toNat * 2 ^ 52 +
      scaledRound n.toNat 1 ((Nat.log2 n.toNat : Int) - 52) = intCode n.toNat := by
    unfold intCode
    omega
  have hsize : 1023 * 2 ^ 52 ≤ intCode n.toNat := by
    unfold intCode
    omega
  refine ⟨?_, hsize⟩
  unfold floatOfInt at h
  rw [decide_eq_false (by omega), hnat, ofQuotient_one hpos, assemble_eq hlow (by omega), hcode] at h
  split at h
  · rename_i y hy
    cases h
    split at hy
    · cases hy
    · rename_i hrange
      cases hy
      exact coded_ofBits (by omega) (by omega)
  · cases h

end EntitySearch.Number
