import EntitySearch.Proofs.Number.Operations
/-!
# Products with powers of two

Multiplying by a power of two moves the digits of a double and rounds nothing: the product with one
is the double itself (`mul_one`), and the product with a greater power is worth what it should be or
is infinite (`value?_mul_two_pow`). Doubles that are worth something are compared like what they are
worth (`less_eq_value`).
-/

namespace EntitySearch.Number

open Float.Model (Format UnpackedFloat totalExponent)
open Float.Model.UnpackedFloat

/-! ## Unpacking and packing -/

/-- Significand and exponent as a double has them: 53 digits, or fewer at the least exponent. -/
structure Canonical (m : ℕ) (e : ℤ) : Prop where
  digits : m < 2 ^ 53
  full : 2 ^ 52 ≤ m ∨ e = -1074
  low : -1074 ≤ e

theorem canonical_of_unpack {bits : BitVec Format.binary64.numBits} {s : Sign} {m : ℕ} {e : ℤ}
    {hm : 0 < m} (h : unpack Format.binary64 bits = .finite s m e hm) :
    Canonical m e ∧ e ≤ 971 := by
  have hbias : ((Format.binary64.exponentBias : ℕ) : ℤ) = 1023 := rfl
  have hfew : (unpackMantissa bits).toNat < 2 ^ 52 := (unpackMantissa bits).isLt
  have hfield : (unpackExponent bits).toNat < 2 ^ 11 := (unpackExponent bits).isLt
  unfold unpack at h
  simp only at h
  split at h
  · split at h <;> cases h
  rename_i htop
  split at h
  · rename_i hleast
    split at h
    · cases h
    · -- the least exponent, without the digit in front
      cases h
      refine ⟨⟨by omega, Or.inr ?_, ?_⟩, ?_⟩ <;> simp [hleast, hbias]
  · rename_i hleast
    cases h
    have hnonzero : (unpackExponent bits).toNat ≠ 0 := fun heq =>
      hleast (BitVec.eq_of_toNat_eq heq)
    have hbelow : (unpackExponent bits).toNat ≠ 2047 := fun heq =>
      htop (BitVec.eq_of_toNat_eq heq)
    rw [toNat_implicit]
    refine ⟨⟨by omega, Or.inl (by omega), ?_⟩, ?_⟩ <;> omega

/-- Fields put together again. -/
theorem packComponents_fields {bits : BitVec Format.binary64.numBits}
    {exponent : BitVec Format.binary64.exponentBits}
    {mantissa : BitVec Format.binary64.mantissaBitsWithoutImplicit}
    (hexponent : unpackExponent bits = exponent) (hmantissa : unpackMantissa bits = mantissa) :
    packComponents Format.binary64 (Sign.ofBitVec (unpackSign bits)) exponent mantissa = bits := by
  have hsign : ∀ bit : BitVec 1, (Sign.ofBitVec bit).toBitVec = bit := by decide
  subst hexponent hmantissa
  simp only [packComponents, hsign, unpackSign, unpackExponent, unpackMantissa, BitVec.extractLsb]
  ext i hi
  grind

/-- Packing undoes unpacking; there is only one way of being undefined. -/
theorem pack_unpack {bits : BitVec Format.binary64.numBits} (hvalid : Format.binary64.Valid bits) :
    pack Format.binary64 (unpack Format.binary64 bits) = bits := by
  have hbias : ((Format.binary64.exponentBias : ℕ) : ℤ) = 1023 := rfl
  have hbits : Format.binary64.mantissaBits = 53 := rfl
  have hfew : (unpackMantissa bits).toNat < 2 ^ 52 := (unpackMantissa bits).isLt
  have hfield : (unpackExponent bits).toNat < 2 ^ 11 := (unpackExponent bits).isLt
  unfold unpack
  simp only
  split
  · rename_i htop
    split
    · rename_i hnone
      exact packComponents_fields htop hnone
    · rename_i hsome
      exact (hvalid.eq_packedNaN htop hsome).symm
  rename_i htop
  split
  · rename_i hleast
    split
    · rename_i hnone
      exact packComponents_fields hleast hnone
    · rename_i hsome
      -- fewer than 53 digits
      have hpos : (unpackMantissa bits).toNat ≠ 0 := fun heq => hsome (BitVec.eq_of_toNat_eq heq)
      have hlog := (Nat.log2_lt hpos).mpr hfew
      have hbiased : (((unpackExponent bits).toNat : ℤ) -
          (Format.binary64.exponentBias + (52 : ℕ)) + 1 +
            Format.binary64.exponentBias + (52 : ℕ)).toNat = 1 := by
        simp [hleast, hbias]
      unfold pack
      simp only [hbiased]
      rw [if_neg (by decide), if_neg (by omega)]
      refine packComponents_fields hleast ?_
      rw [BitVec.ofNat_toNat, BitVec.setWidth_eq]
  · rename_i hleast
    have hnonzero : (unpackExponent bits).toNat ≠ 0 := fun heq =>
      hleast (BitVec.eq_of_toNat_eq heq)
    have hbelow : (unpackExponent bits).toNat ≠ 2047 := fun heq =>
      htop (BitVec.eq_of_toNat_eq heq)
    have hbiased : (((unpackExponent bits).toNat : ℤ) - (Format.binary64.exponentBias + (52 : ℕ)) +
        Format.binary64.exponentBias + (52 : ℕ)).toNat = (unpackExponent bits).toNat := by
      omega
    have hlog : (1#1 ++ unpackMantissa bits).toNat.log2 = 52 := by
      rw [toNat_implicit]
      exact (Nat.log2_eq_iff (by omega)).mpr ⟨by omega, by omega⟩
    unfold pack
    simp only [hbiased, hlog]
    rw [if_neg (by simp only [Format.binary64]; omega), if_pos (by omega)]
    refine packComponents_fields ?_ ?_
    · rw [BitVec.ofNat_toNat, BitVec.setWidth_eq]
    · rw [← BitVec.toNat_inj, BitVec.toNat_ofNat, toNat_implicit]
      simp only [Format.binary64] at hfew ⊢
      omega

/-- A double is what it unpacks to. -/
theorem ofModel_pack_unpack (x : Float) :
    Float.ofModel (Float.Model.pack x.toModel.unpack) = x := by
  obtain ⟨bits, hvalid⟩ := x
  have hbits : pack Format.binary64 (unpack Format.binary64 bits.toBitVec) = bits.toBitVec :=
    pack_unpack hvalid
  simp only [Float.Model.pack, Float.Model.unpack, hbits]

/-! ## Products that need no rounding -/

/-- Digits that fit are not rounded, whatever zeros stand behind them. -/
theorem roundWithAccuracy_exact {s : Sign} {m n : ℕ} {e : ℤ} (hm : 0 < m)
    (h : Canonical m (e + n)) :
    roundWithAccuracy Format.binary64 s (m * 2 ^ n) e .exact = .finite s m (e + n) hm := by
  obtain ⟨hdigits, hfull, hlow⟩ := h
  have hlog : Nat.log2 (m * 2 ^ n) = Nat.log2 m + n := by
    have hleast := Nat.log2_self_le hm.ne'
    have hmost : m < 2 ^ (Nat.log2 m + 1) := Nat.lt_log2_self
    refine (Nat.log2_eq_iff (Nat.mul_pos hm (Nat.two_pow_pos n)).ne').mpr ⟨?_, ?_⟩
    · rw [Nat.pow_add]
      exact Nat.mul_le_mul_right _ hleast
    · rw [Nat.add_right_comm, Nat.pow_add]
      exact Nat.mul_lt_mul_of_pos_right hmost (Nat.two_pow_pos n)
  have hamount : (Format.binary64.targetExponent (totalExponent (m * 2 ^ n) e) - e).toNat = n := by
    have hmost := (Nat.log2_lt hm.ne').mpr hdigits
    have hleast : e + n = -1074 ∨ 52 ≤ Nat.log2 m :=
      hfull.symm.imp_right (Nat.le_log2 hm.ne').mpr
    simp only [Format.targetExponent, totalExponent, Format.mantissaBits, Format.minExponent, hlog]
    omega
  have hfirst : shiftToTargetExponent Format.binary64 (m * 2 ^ n) e .exact =
      (ExtendedMantissa.ofMantissaAndAccuracy m .exact, e + n) := by
    unfold shiftToTargetExponent shiftToExponent
    simp only [hamount, shiftRight_exact, Nat.mul_div_cancel _ (Nat.two_pow_pos n),
      Nat.mul_mod_left]
    rfl
  have hsame : (ExtendedMantissa.ofMantissaAndAccuracy m .exact).roundedMantissa = m := rfl
  have hkept : (ExtendedMantissa.ofMantissaAndAccuracy m .exact).mantissa = m := rfl
  unfold roundWithAccuracy
  simp only [hfirst, hsame, shiftToTargetExponent_eq hdigits hlow, hkept, dif_neg hm.ne']

/-- The double that is two to a power. -/
def IsTwoPow (y : Float) (k : ℕ) : Prop :=
  y.toModel.unpack = .finite .positive (2 ^ 52) ((k : ℤ) - 52) (Nat.two_pow_pos 52)

theorem isTwoPow_floatOfInt {k : ℕ} {y : Float}
    (h : floatOfInt (Nat.pow 2 k : ℕ) = .ok y) : IsTwoPow y k := by
  have hpos : 0 < Nat.pow 2 k := Nat.two_pow_pos k
  obtain ⟨⟨m, e, hm, hunpack, hdigits, hfull, hlow, -, hcode⟩, hsize⟩ :=
    coded_floatOfInt (by omega) h
  have hlog : Nat.log2 (Nat.pow 2 k) = k := Nat.log2_two_pow
  have hround : scaledRound (Nat.pow 2 k) 1 ((k : ℤ) - 52) = 2 ^ 52 := by
    rcases Nat.lt_or_ge k 52 with hfew | hmany
    · rw [scaledRound_small hfew, Nat.pow_eq, ← Nat.pow_add]
      congr 1
      omega
    · rw [scaledRound_one hmany, Nat.pow_eq,
        show 2 ^ k = 2 ^ (k - 52) * 2 ^ 52 by rw [← Nat.pow_add]; congr 1; omega]
      exact roundHalfEven_mul _ _ (Nat.two_pow_pos _)
  rw [Int.toNat_natCast, intCode, hlog, hround] at hcode hsize
  obtain ⟨rfl, rfl⟩ : m = 2 ^ 52 ∧ e = (k : ℤ) - 52 := by omega
  exact hunpack

/-- The digits of a double times a power of two. -/
theorem exists_mul_two_pow {m : ℕ} {e : ℤ} (hm : 0 < m) (h : Canonical m e) (k : ℕ) :
    ∃ m' e', ∃ hm' : 0 < m', Canonical m' e' ∧ (m' * 2 ^ e' : ℚ) = m * 2 ^ e * 2 ^ k ∧
      ∀ s, roundWithAccuracy Format.binary64 s (m * 2 ^ 52) (e + (k - 52)) .exact =
        .finite s m' e' hm' := by
  -- so many of the zeros behind the digits are left over
  obtain ⟨n, hn, hcanonical⟩ : ∃ n ≤ 52, Canonical (m * 2 ^ (52 - n)) (e + (k - 52) + (n : ℕ)) := by
    obtain ⟨hdigits, hfull, hlow⟩ := h
    have hleast := Nat.log2_self_le hm.ne'
    have hmost : m < 2 ^ (Nat.log2 m + 1) := Nat.lt_log2_self
    have hsum : ∀ a b : ℕ, 2 ^ a * 2 ^ b = 2 ^ (a + b) := fun a b => (Nat.pow_add 2 a b).symm
    rcases Nat.lt_or_ge m (2 ^ 52) with hfew | hmany
    · obtain rfl : e = -1074 := by omega
      have hlog := (Nat.log2_lt hm.ne').mpr hfew
      rcases Nat.lt_or_ge (Nat.log2 m + k) 52 with hstay | hgrow
      · refine ⟨52 - k, Nat.sub_le _ _, ?_, Or.inr (by omega), by omega⟩
        refine (Nat.mul_lt_mul_of_pos_right hmost (Nat.two_pow_pos _)).trans_le ?_
        rw [hsum]
        exact two_pow_le_two_pow (by omega)
      · refine ⟨Nat.log2 m, hlog.le, ?_, Or.inl ?_, by omega⟩
        · refine (Nat.mul_lt_mul_of_pos_right hmost (Nat.two_pow_pos _)).trans_le ?_
          rw [hsum]
          exact two_pow_le_two_pow (by omega)
        · refine le_trans ?_ (Nat.mul_le_mul_right _ hleast)
          rw [hsum]
          exact two_pow_le_two_pow (by omega)
    · exact ⟨52, le_refl _, by omega, Or.inl (by omega), by omega⟩
  have hsplit : m * 2 ^ 52 = m * 2 ^ (52 - n) * 2 ^ n := by
    rw [Nat.mul_assoc, ← Nat.pow_add, Nat.sub_add_cancel hn]
  refine ⟨m * 2 ^ (52 - n), _, Nat.mul_pos hm (Nat.two_pow_pos _), hcanonical, ?_, fun s => ?_⟩
  · have hexponent : ((52 - n : ℕ) : ℤ) + (e + (k - 52) + (n : ℕ)) = e + k := by omega
    push_cast
    rw [mul_assoc, ← zpow_natCast, ← zpow_add₀ (by norm_num), hexponent,
      zpow_add₀ (by norm_num), zpow_natCast, mul_assoc]
  · rw [hsplit]
    exact roundWithAccuracy_exact _ hcanonical

/-- A double times one is the double. -/
theorem mul_one (x : Float) : x * Scalar.ofNat 1 = x := by
  conv_rhs => rw [← ofModel_pack_unpack x]
  show Float.ofModel (Float.Model.pack
    (UnpackedFloat.mul Format.binary64 x.toModel.unpack _)) = _
  rw [unpack_one]
  congr 2
  have hcanonical : ∀ s m e hm, x.toModel.unpack = .finite s m e hm → Canonical m e :=
    fun s m e hm h => (canonical_of_unpack h).1
  have hsign : ∀ s : Sign, s * .positive = s := fun s => by cases s <;> rfl
  generalize x.toModel.unpack = u at hcanonical
  cases u with
  | infinity s => simp only [one, UnpackedFloat.mul, hsign]
  | notANumber => rfl
  | zero s => simp only [one, UnpackedFloat.mul, hsign]
  | finite s m e hm =>
    have h := hcanonical s m e hm rfl
    have hexponent : e + -52 + (52 : ℕ) = e := by omega
    have hexact := roundWithAccuracy_exact (s := s) hm (hexponent.symm ▸ h)
    rw [hexponent] at hexact
    simp only [one, UnpackedFloat.mul, hsign]
    exact hexact

/-! ## What doubles are worth -/

/-- What an unpacked double is worth, unless it is infinite or undefined. -/
def unpackedValue? : UnpackedFloat → Option ℚ
  | .zero _ => some 0
  | .finite .positive m e _ => some (m * 2 ^ e)
  | .finite .negative m e _ => some (-(m * 2 ^ e))
  | .infinity _ | .notANumber => none

/-- What a double is worth, unless it is infinite or undefined. -/
def value? (x : Float) : Option ℚ := unpackedValue? x.toModel.unpack

/-- A double that is worth something and not negative is zero or has positive digits. -/
theorem value?_cases {x : Float} {v : ℚ} (hx : value? x = some v) (hv : 0 ≤ v) :
    (∃ s, x.toModel.unpack = .zero s ∧ v = 0) ∨
    ∃ m e hm, x.toModel.unpack = .finite .positive m e hm ∧ v = m * 2 ^ e ∧ Canonical m e ∧
      e ≤ 971 := by
  have hcanonical : ∀ s m e hm, x.toModel.unpack = .finite s m e hm → Canonical m e ∧ e ≤ 971 :=
    fun s m e hm h => canonical_of_unpack h
  unfold value? at hx
  generalize x.toModel.unpack = u at hx hcanonical
  rcases u with _ | _ | s | ⟨_ | _, m, e, hm⟩
  · cases hx
  · cases hx
  · cases hx
    exact Or.inl ⟨s, rfl, rfl⟩
  · cases hx
    have hpos : (0 : ℚ) < m * 2 ^ e := by positivity
    linarith
  · cases hx
    exact Or.inr ⟨m, e, hm, rfl, rfl, hcanonical _ _ _ _ rfl⟩

/-- Greater digits are worth more. -/
theorem Canonical.lt_of_digits {m m' : ℕ} {e e' : ℤ} (h : Canonical m e) (h' : Canonical m' e')
    (hless : e < e' ∨ e = e' ∧ m < m') : (m * 2 ^ e : ℚ) < m' * 2 ^ e' := by
  have hlow := h.low
  rcases hless with hexponent | ⟨rfl, hdigits⟩
  · exact digits_lt_of_lt (h'.full.resolve_right (by omega)) h.digits (Or.inl hexponent)
  · exact mul_lt_mul_of_pos_right (by exact_mod_cast hdigits) (by positivity)

theorem Canonical.lt_iff {m m' : ℕ} {e e' : ℤ} (h : Canonical m e) (h' : Canonical m' e') :
    (m * 2 ^ e : ℚ) < m' * 2 ^ e' ↔ e < e' ∨ e = e' ∧ m < m' := by
  refine ⟨fun hless => ?_, h.lt_of_digits h'⟩
  by_contra hnot
  rcases show (e' < e ∨ e' = e ∧ m' < m) ∨ (e' = e ∧ m' = m) by omega with hmore | ⟨rfl, rfl⟩
  · exact absurd (h'.lt_of_digits h hmore) (not_lt.mpr hless.le)
  · exact lt_irrefl _ hless

section Values

variable {x y : Float} {v w : ℚ} (hx : value? x = some v) (hv : 0 ≤ v)

include hx hv

theorem isOrderly_of_value? : Scalar.isOrderly x = true := by
  unfold Scalar.isOrderly
  rw [same_eq_compare]
  rcases value?_cases hx hv with ⟨s, hunpack, -⟩ | ⟨m, e, hm, hunpack, -⟩
  · rw [hunpack]
    rfl
  · rw [hunpack]
    simp [UnpackedFloat.compare]

/-- Doubles are compared like what they are worth. -/
theorem less_eq_value (hy : value? y = some w) (hw : 0 ≤ w) :
    Scalar.less x y = decide (v < w) := by
  rw [less_eq_place (isOrderly_of_value? hx hv) (isOrderly_of_value? hy hw), Bool.eq_iff_iff,
    decide_eq_true_iff, decide_eq_true_iff]
  unfold place
  rcases value?_cases hx hv with ⟨s, hunpack, rfl⟩ | ⟨m, e, hm, hunpack, rfl, hcanonical, -⟩ <;>
    rcases value?_cases hy hw with
      ⟨s', hunpack', rfl⟩ | ⟨m', e', hm', hunpack', rfl, hcanonical', -⟩ <;>
    rw [hunpack, hunpack']
  · simp [unpackedPlace]
  · have hpos : (0 : ℚ) < m' * 2 ^ e' := by positivity
    simp [unpackedPlace, lex_lt_iff, hpos]
  · simp [unpackedPlace, lex_lt_iff, hv]
  · rw [hcanonical.lt_iff hcanonical']
    simp [unpackedPlace, lex_lt_iff]

/-- A double that is worth something is less than infinity. -/
theorem less_infinity (hy : y.toModel.unpack = .infinity .positive) : Scalar.less x y = true := by
  have horderly : Scalar.isOrderly y = true := by
    unfold Scalar.isOrderly
    rw [same_eq_compare, hy]
    rfl
  rw [less_eq_place (isOrderly_of_value? hx hv) horderly, decide_eq_true_iff]
  unfold place
  rw [hy]
  rcases value?_cases hx hv with ⟨s, hunpack, -⟩ | ⟨m, e, hm, hunpack, -⟩ <;> rw [hunpack] <;>
    simp [unpackedPlace, lex_lt_iff]

/-- No double is worth as much as `2 ^ 1024`. -/
theorem value?_lt : v < 2 ^ (1024 : ℤ) := by
  rcases value?_cases hx hv with ⟨s, -, rfl⟩ | ⟨m, e, hm, -, rfl, hcanonical, hhigh⟩
  · positivity
  · have hdigits : (m : ℚ) < 2 ^ (53 : ℤ) := by exact_mod_cast hcanonical.digits
    calc (m * 2 ^ e : ℚ) < 2 ^ (53 : ℤ) * 2 ^ e := mul_lt_mul_of_pos_right hdigits (by positivity)
      _ = 2 ^ (53 + e) := by rw [zpow_add₀ (by norm_num)]
      _ ≤ 2 ^ (1024 : ℤ) := two_zpow_le.mpr (by omega)

/-- The product with a power of two is exact, unless it is as much as `2 ^ 1024` or more: then it is
infinite. -/
theorem value?_mul_two_pow {k : ℕ} (hy : IsTwoPow y k) :
    value? (x * y) = some (v * 2 ^ k) ∨
      (x * y).toModel.unpack = .infinity .positive ∧ 2 ^ (1024 : ℤ) ≤ v * 2 ^ k := by
  have hproduct : (x * y).toModel.unpack = unpack Format.binary64 (pack Format.binary64
      (UnpackedFloat.mul Format.binary64 x.toModel.unpack y.toModel.unpack)) := rfl
  unfold value?
  rw [hproduct, hy]
  rcases value?_cases hx hv with ⟨s, hunpack, rfl⟩ | ⟨m, e, hm, hunpack, rfl, hcanonical, -⟩
  · left
    have hmul : UnpackedFloat.mul Format.binary64 x.toModel.unpack
        (.finite .positive (2 ^ 52) ((k : ℤ) - 52) (Nat.two_pow_pos 52)) = .zero s := by
      rw [hunpack]
      cases s <;> rfl
    rw [hmul, zero_mul]
    cases s <;> rfl
  · obtain ⟨m', e', hm', hresult, hvalue, hround⟩ := exists_mul_two_pow hm hcanonical k
    have hmul : UnpackedFloat.mul Format.binary64 x.toModel.unpack
        (.finite .positive (2 ^ 52) ((k : ℤ) - 52) (Nat.two_pow_pos 52)) =
        .finite .positive m' e' hm' := by
      rw [hunpack]
      exact hround _
    rw [hmul, ← hvalue]
    rcases Int.lt_or_le 971 e' with hlarge | hhigh
    · right
      have hmany : 2 ^ 52 ≤ m' := hresult.full.resolve_right (by omega)
      have hdigits : (2 : ℚ) ^ (52 : ℤ) ≤ m' := by exact_mod_cast hmany
      constructor
      · unfold pack
        simp only
        rw [if_pos (by simp only [Format.exponentBias]; omega)]
        rfl
      · calc (2 : ℚ) ^ (1024 : ℤ) ≤ 2 ^ (52 + e') := two_zpow_le.mpr (by omega)
          _ = 2 ^ (52 : ℤ) * 2 ^ e' := by rw [zpow_add₀ (by norm_num)]
          _ ≤ m' * 2 ^ e' := mul_le_mul_of_nonneg_right hdigits (by positivity)
    · left
      have hsame : unpack Format.binary64 (pack Format.binary64 (.finite .positive m' e' hm')) =
          .finite .positive m' e' hm' := by
        rcases Nat.lt_or_ge m' (2 ^ 52) with hfew | hmany
        · obtain rfl : e' = -1074 := hresult.full.resolve_left (by omega)
          exact unpack_pack_subnormal hm' hfew
        · exact unpack_pack_normal hm' hmany hresult.digits hresult.low hhigh
      rw [hsame]
      rfl

end Values

end EntitySearch.Number
