import EntitySearch.Number.Binary64
import Mathlib
/-!
# Whole numbers in the range of doubles

A whole number becomes a double unless it is half a unit or more beyond the greatest one
(`floatOfInt_eq_ok_iff`): rounded to 53 binary digits it then reaches `2 ^ 1024`.
-/

namespace EntitySearch.Number

/-- The least magnitude of a whole number that is too large for a double. -/
@[irreducible]
def overflow : Nat := 2 ^ 1024 - 2 ^ 970

theorem overflow_eq : overflow = (2 ^ 54 - 1) * 2 ^ 970 := by decide +kernel

theorem two_pow_le_two_pow {a b : Nat} (h : a ≤ b) : 2 ^ a ≤ 2 ^ b :=
  Nat.pow_le_pow_right (by decide) h

theorem overflow_le_two_pow {size : Nat} (h : 1024 ≤ size) : overflow ≤ 2 ^ size := by
  have hpow := two_pow_le_two_pow h
  unfold overflow
  omega

theorem two_pow_le_overflow {size : Nat} (h : size ≤ 1023) : 2 ^ size ≤ overflow := by
  have hpow := two_pow_le_two_pow h
  unfold overflow
  omega

/-! ## Rounding a quotient -/

section Rounding

variable (num den : Nat)

theorem div_le_roundHalfEven : num / den ≤ roundHalfEven num den := by
  unfold roundHalfEven
  simp only
  split
  · exact le_refl _
  · split
    · omega
    · split <;> omega

theorem roundHalfEven_le : roundHalfEven num den ≤ num / den + 1 := by
  unfold roundHalfEven
  simp only
  split
  · omega
  · split
    · omega
    · split <;> omega

/-- A quotient just below an even number is rounded to it from the tie on. -/
theorem roundHalfEven_eq_succ_iff (hodd : num / den % 2 = 1) :
    roundHalfEven num den = num / den + 1 ↔ den ≤ 2 * (num % den) := by
  unfold roundHalfEven
  simp only
  constructor
  · intro h
    split at h <;> omega
  · intro h
    rw [if_neg (by omega)]
    split
    · rfl
    · rw [if_neg (by omega)]

end Rounding

/-! ## Too large for a double -/

/-- A significand that has its 53 digits, or has been rounded up to `2 ^ 53`, is too large from the
exponent on at which the digits no longer fit. -/
theorem assemble_eq_none_iff {negative : Bool} {significand : Nat} {exponent : Int}
    (hlow : 2 ^ 52 ≤ significand) (hhigh : significand ≤ 2 ^ 53) (hexp : -1074 ≤ exponent) :
    assemble negative significand exponent = none ↔
      972 ≤ exponent ∨ (exponent = 971 ∧ significand = 2 ^ 53) := by
  unfold assemble
  simp only [Nat.pow_eq]
  -- a significand of `2 ^ 53` is halved, which takes an exponent more
  by_cases hcarry : significand = 2 ^ 53
  · rw [if_pos hcarry]
    simp only [lt_irrefl, if_false, ite_eq_left_iff, not_le, reduceCtorEq, imp_false]
    omega
  · rw [if_neg hcarry]
    simp only [not_lt.mpr hlow, if_false, ite_eq_left_iff, not_le, reduceCtorEq, imp_false]
    omega

/-- The double nearest to a whole number has the exponent at which its first 53 digits stand before
the point. -/
theorem ofQuotient_one {negative : Bool} {n : Nat} (hn : n ≠ 0) :
    ofQuotient negative n 1 =
      assemble negative (scaledRound n 1 ((Nat.log2 n : Int) - 52)) ((Nat.log2 n : Int) - 52) := by
  have hlog : 2 ^ Nat.log2 n ≤ n := Nat.log2_self_le hn
  unfold ofQuotient
  simp only [Nat.pow_eq]
  rw [if_neg hn]
  have hone : (Nat.log2 1 : Int) = 0 := by decide
  simp only [hone, Int.sub_zero, Nat.one_mul, Nat.div_one]
  have hlow : max ((Nat.log2 n : Int) - 53) (-1074) = (Nat.log2 n : Int) - 53 := by omega
  rw [hlow]
  -- at one digit more the significand still has its 53 digits
  have hfloor : 2 ^ 53 ≤
      (if 0 ≤ (Nat.log2 n : Int) - 53 then n / 2 ^ ((Nat.log2 n : Int) - 53).toNat
        else n * 2 ^ (-((Nat.log2 n : Int) - 53)).toNat) := by
    split
    · rename_i hsize
      rw [Nat.le_div_iff_mul_le (Nat.two_pow_pos _), ← Nat.pow_add]
      exact le_trans (two_pow_le_two_pow (by omega)) hlog
    · rename_i hsize
      refine le_trans ?_ (Nat.mul_le_mul_right _ hlog)
      rw [← Nat.pow_add]
      exact two_pow_le_two_pow (by omega)
  rw [if_pos hfloor]
  have hexp : (Nat.log2 n : Int) - 53 + 1 = (Nat.log2 n : Int) - 52 := by omega
  rw [hexp]

/-- The significand of a whole number with at least 53 digits. -/
theorem scaledRound_one {n size : Nat} (hsize : 52 ≤ size) :
    scaledRound n 1 ((size : Int) - 52) = roundHalfEven n (2 ^ (size - 52)) := by
  unfold scaledRound
  simp only [Nat.pow_eq]
  rw [if_pos (by omega), Nat.one_mul]
  have hexp : ((size : Int) - 52).toNat = size - 52 := by omega
  rw [hexp]

/-- The significand of a whole number with fewer digits is exact. -/
theorem scaledRound_small {n size : Nat} (hsize : size < 52) :
    scaledRound n 1 ((size : Int) - 52) = n * 2 ^ (52 - size) := by
  unfold scaledRound
  simp only [Nat.pow_eq]
  rw [if_neg (by omega)]
  have hexp : (-((size : Int) - 52)).toNat = 52 - size := by omega
  rw [hexp]
  have hexact := roundHalfEven_mul (n * 2 ^ (52 - size)) 1 Nat.one_pos
  rwa [Nat.one_mul] at hexact

/-- The significand of a whole number has 53 digits or has been rounded up to `2 ^ 53`. -/
theorem scaledRound_bounds {n : Nat} (hn : n ≠ 0) :
    2 ^ 52 ≤ scaledRound n 1 ((Nat.log2 n : Int) - 52) ∧
      scaledRound n 1 ((Nat.log2 n : Int) - 52) ≤ 2 ^ 53 := by
  have hlow : 2 ^ Nat.log2 n ≤ n := Nat.log2_self_le hn
  have hhigh : n < 2 ^ (Nat.log2 n + 1) := Nat.lt_log2_self
  generalize Nat.log2 n = size at hlow hhigh
  rcases Nat.lt_or_ge size 52 with hsize | hsize
  · -- few digits are shifted up to 53
    rw [scaledRound_small hsize]
    have hpow : 2 ^ size * 2 ^ (52 - size) = 2 ^ 52 := by
      rw [← Nat.pow_add]
      congr 1
      omega
    have hlow' := Nat.mul_le_mul_right (2 ^ (52 - size)) hlow
    have hhigh' := Nat.mul_le_mul_right (2 ^ (52 - size)) hhigh.le
    rw [Nat.pow_succ, Nat.mul_right_comm] at hhigh'
    omega
  · -- of many digits the first 53 are left, rounded up by one at most
    rw [scaledRound_one hsize]
    have hpow : 2 ^ size = 2 ^ 52 * 2 ^ (size - 52) := by
      rw [← Nat.pow_add]
      congr 1
      omega
    rw [hpow] at hlow
    rw [Nat.pow_succ, hpow] at hhigh
    have hfloor : 2 ^ 52 ≤ n / 2 ^ (size - 52) :=
      (Nat.le_div_iff_mul_le (Nat.two_pow_pos _)).mpr hlow
    have hceil : n / 2 ^ (size - 52) < 2 ^ 53 := by
      rw [Nat.div_lt_iff_lt_mul (Nat.two_pow_pos _)]
      omega
    have hround := roundHalfEven_le n (2 ^ (size - 52))
    have hdown := div_le_roundHalfEven n (2 ^ (size - 52))
    omega

/-- A number of 1024 digits is rounded up to `2 ^ 1024` from half a unit below on. -/
theorem roundHalfEven_top_iff {n : Nat} (hsize : Nat.log2 n = 1023) :
    roundHalfEven n (2 ^ (1023 - 52)) = 2 ^ 53 ↔ overflow ≤ n := by
  rw [overflow_eq]
  have hunit : (2 : Nat) ^ (1023 - 52) = 2 * 2 ^ 970 := by decide +kernel
  have htop : (2 : Nat) ^ (1023 + 1) = 2 ^ 54 * 2 ^ 970 := by decide +kernel
  have hhigh : n < 2 ^ (Nat.log2 n + 1) := Nat.lt_log2_self
  rw [hsize, htop] at hhigh
  rw [hunit]
  have hpos : 0 < (2 : Nat) ^ 970 := by decide +kernel
  -- with half a unit as a variable all is linear
  generalize (2 : Nat) ^ 970 = half at hhigh hpos
  have hdiv := Nat.div_add_mod n (2 * half)
  have hmod := Nat.mod_lt n (show 0 < 2 * half by omega)
  have hfloor : n / (2 * half) < 2 ^ 53 := by
    rw [Nat.div_lt_iff_lt_mul (by omega)]
    omega
  have hround := roundHalfEven_le n (2 * half)
  have hdown := div_le_roundHalfEven n (2 * half)
  -- only 53 ones can be rounded up to `2 ^ 53`
  by_cases htop : n / (2 * half) = 2 ^ 53 - 1
  · have hup := roundHalfEven_eq_succ_iff n (2 * half) (by rw [htop]; rfl)
    rw [htop] at hup hdiv
    have hsum : 2 * half * (2 ^ 53 - 1) = (2 ^ 54 - 2) * half := by ring
    rw [hsum] at hdiv
    constructor
    · intro h
      have := hup.mp (by omega)
      omega
    · intro h
      have := hup.mpr (by omega)
      omega
  · constructor
    · intro h
      omega
    · intro h
      have hmany : (2 ^ 53 - 1) * (2 * half) ≤ n := by omega
      have := (Nat.le_div_iff_mul_le (show 0 < 2 * half by omega)).mpr hmany
      omega

theorem overflow_pos : 0 < overflow := by decide +kernel

theorem ofQuotient_one_eq_none_iff (negative : Bool) {n : Nat} :
    ofQuotient negative n 1 = none ↔ overflow ≤ n := by
  have hpos := overflow_pos
  rcases Nat.eq_zero_or_pos n with rfl | hn
  · have hzero : (ofQuotient negative 0 1).isSome = true := by cases negative <;> decide +kernel
    rw [Option.eq_none_iff_forall_ne_some]
    constructor
    · intro h
      obtain ⟨x, hx⟩ := Option.isSome_iff_exists.mp hzero
      exact absurd hx (h x)
    · intro h
      omega
  · have hne : n ≠ 0 := by omega
    obtain ⟨hlow, hhigh⟩ := scaledRound_bounds hne
    rw [ofQuotient_one hne, assemble_eq_none_iff hlow hhigh (by omega)]
    have hfloor : 2 ^ Nat.log2 n ≤ n := Nat.log2_self_le hne
    constructor
    · rintro (hlarge | ⟨hlast, hcarry⟩)
      · exact (overflow_le_two_pow (by omega)).trans hfloor
      · have hsize : Nat.log2 n = 1023 := by omega
        rw [hsize, scaledRound_one (by decide)] at hcarry
        exact (roundHalfEven_top_iff hsize).mp hcarry
    · intro h
      -- the number has at least 1024 digits
      have hsize : 1023 ≤ Nat.log2 n := by
        by_contra hsmall
        exact absurd (Nat.lt_log2_self.trans_le (two_pow_le_overflow (by omega))) (not_lt.mpr h)
      rcases Nat.eq_or_lt_of_le hsize with hlast | hlarge
      · refine Or.inr ⟨by omega, ?_⟩
        rw [← hlast, scaledRound_one (by decide)]
        exact (roundHalfEven_top_iff hlast.symm).mpr h
      · exact Or.inl (by omega)

theorem floatOfInt_eq_error_iff {n : Int} {cause : ArithmeticError} :
    floatOfInt n = .error cause ↔ cause = .outOfRange ∧ overflow ≤ n.natAbs := by
  unfold floatOfInt
  cases hx : ofQuotient (decide (n < 0)) n.natAbs 1 with
  | some x =>
    have hsmall : ¬ overflow ≤ n.natAbs := by
      rw [← ofQuotient_one_eq_none_iff (decide (n < 0)), hx]
      simp
    simp [hsmall]
  | none =>
    have hlarge := (ofQuotient_one_eq_none_iff _).mp hx
    simp [hlarge, eq_comm]

theorem floatOfInt_eq_ok_iff {n : Int} :
    (∃ x, floatOfInt n = .ok x) ↔ n.natAbs < overflow := by
  cases h : floatOfInt n with
  | error cause =>
    have hlarge := (floatOfInt_eq_error_iff.mp h).2
    simp [hlarge]
  | ok x =>
    have hsmall : ¬ overflow ≤ n.natAbs := by
      intro hlarge
      rw [floatOfInt_eq_error_iff.mpr ⟨rfl, hlarge⟩] at h
      cases h
    simpa using hsmall

end EntitySearch.Number
