import EntitySearch.Proofs.Number.Operations
/-!
# Plain doubles

A double is plain if it is defined and has no minus sign, be it zero, a number or infinite. Plain
doubles can be compared (`Plain.isOrderly`), their sums are plain (`Plain.add`), and so are their
products with positive numbers (`Plain.mul`). Rounding them up to a whole number does not give a
negative one (`Plain.ceil_nonneg`).
-/

namespace EntitySearch.Number

open Float.Model (Format UnpackedFloat totalExponent)
open Float.Model.UnpackedFloat

/-! ## Unpacked doubles -/

/-- An unpacked double is defined and has no minus sign. -/
def PlainUnpacked : UnpackedFloat → Prop
  | .infinity s => s = .positive
  | .zero s => s = .positive
  | .finite s _ _ _ => s = .positive
  | .notANumber => False

/-- Bits without a minus sign, and with an exponent field that is not the greatest, are plain. -/
theorem plain_unpack {bits : BitVec Format.binary64.numBits} (hsign : unpackSign bits = 0#1)
    (hexponent : unpackExponent bits = -1#_ → unpackMantissa bits = 0#_) :
    PlainUnpacked (unpack Format.binary64 bits) := by
  unfold unpack
  simp only [hsign]
  split
  · rename_i htop
    rw [if_pos (hexponent htop)]
    rfl
  · split
    · split <;> rfl
    · rfl

theorem plain_packComponents (exponent : BitVec Format.binary64.exponentBits)
    (mantissa : BitVec Format.binary64.mantissaBitsWithoutImplicit)
    (h : exponent = -1#_ → mantissa = 0#_) :
    PlainUnpacked
      (unpack Format.binary64 (packComponents Format.binary64 .positive exponent mantissa)) := by
  refine plain_unpack (unpackSign_packComponents _ _ _) ?_
  rwa [unpackExponent_packComponents, unpackMantissa_packComponents]

/-- Packing and unpacking leaves what is plain plain. -/
theorem plain_unpack_pack {u : UnpackedFloat} (hu : PlainUnpacked u) :
    PlainUnpacked (unpack Format.binary64 (pack Format.binary64 u)) := by
  have hinfinite : PlainUnpacked
      (unpack Format.binary64 (packedInfinity Format.binary64 .positive)) :=
    plain_packComponents _ _ fun _ => rfl
  have hzero : ∀ mantissa, PlainUnpacked
      (unpack Format.binary64 (packComponents Format.binary64 .positive 0#_ mantissa)) := fun _ =>
    plain_packComponents _ _ fun h => absurd h (by decide)
  cases u with
  | notANumber => exact hu.elim
  | infinity s =>
    obtain rfl : s = .positive := hu
    exact hinfinite
  | zero s =>
    obtain rfl : s = .positive := hu
    exact hzero _
  | finite s m e hm =>
    obtain rfl : s = .positive := hu
    unfold pack
    simp only
    split
    · exact hinfinite
    · rename_i hroom
      split
      · refine plain_packComponents _ _ fun htop => ?_
        exfalso
        have hfield := congrArg BitVec.toNat htop
        rw [BitVec.toNat_ofNat, BitVec.neg_one_eq_allOnes, BitVec.toNat_allOnes] at hfield
        have hmod := Nat.mod_le (e + (Format.binary64.exponentBias : ℤ) +
            (Format.binary64.mantissaBitsWithoutImplicit : ℤ)).toNat
          (2 ^ Format.binary64.exponentBits)
        omega
      · exact hzero _

theorem plain_round (m : ℕ) (e : ℤ) (accuracy : Accuracy) :
    PlainUnpacked (roundWithAccuracy Format.binary64 .positive m e accuracy) := by
  unfold roundWithAccuracy
  simp only
  generalize (shiftToTargetExponent Format.binary64 _ _ .exact).1.mantissa = rounded
  split_ifs
  · rfl
  · rfl

theorem plain_normalize (m : ℕ) (e : ℤ) :
    PlainUnpacked (UnpackedFloat.normalize Format.binary64 m e .positive) := by
  unfold UnpackedFloat.normalize
  split
  · rename_i hnegative
    rw [compare_lt_iff_lt] at hnegative
    omega
  · rfl
  · exact plain_round _ _ _

/-! ## Doubles -/

/-- A double is defined and has no minus sign. -/
def Plain (x : Float) : Prop := PlainUnpacked x.toModel.unpack

theorem plain_pack {u : UnpackedFloat} (hu : PlainUnpacked u) :
    Plain (Float.ofModel (Float.Model.pack u)) := plain_unpack_pack hu

theorem plain_ofBits (bits : ℕ) (h : bits < 2047 * 2 ^ 52) :
    Plain (Float.ofBits (.ofNat bits)) := by
  have hbits : (UInt64.ofNat bits).toBitVec.toNat = bits := by
    rw [UInt64.toNat_toBitVec, UInt64.toNat_ofNat']
    omega
  refine plain_pack (@plain_unpack (UInt64.ofNat bits).toBitVec ?_ ?_)
  · refine BitVec.eq_of_toNat_eq ?_
    simp [unpackSign, Nat.shiftRight_eq_div_pow]
    omega
  · intro htop
    exfalso
    have hfield := congrArg BitVec.toNat htop
    rw [BitVec.neg_one_eq_allOnes, BitVec.toNat_allOnes] at hfield
    simp [unpackExponent, Nat.shiftRight_eq_div_pow] at hfield
    omega

theorem plain_of_ofQuotient {num den : ℕ} {x : Float} (h : ofQuotient false num den = some x) :
    Plain x := by
  have hassemble : ∀ m e, assemble false m e = some x → Plain x := by
    intro m e hx
    unfold assemble at hx
    simp only at hx
    generalize (if (if m = 2 ^ 53 then (2 ^ 52, e + 1) else (m, e)).1 < 2 ^ 52 then _ else _ : ℕ) =
      magnitude at hx
    split at hx
    · cases hx
    · cases hx
      rw [if_neg (by decide)]
      exact plain_ofBits _ (by omega)
  unfold ofQuotient at h
  split at h
  · exact hassemble _ _ h
  · exact hassemble _ _ h

/-- A natural number is a plain double, if an infinite one. -/
theorem plain_ofNat (n : ℕ) : Plain (Scalar.ofNat n) := by
  have hinfinity : Plain (infinity false) :=
    plain_pack (plain_unpack (by decide) (by decide))
  have hnearest : ∀ num den, Plain ((ofQuotient false num den).getD (infinity false)) := by
    intro num den
    cases hx : ofQuotient false num den with
    | none => exact hinfinity
    | some x => exact plain_of_ofQuotient hx
  show Plain (ofDecimal false n (-(0 : ℕ)))
  unfold ofDecimal
  simp only
  split
  · cases hzero : assemble false 0 0 with
    | none => exact plain_ofBits 0 (by decide)
    | some x =>
      have hx : ofQuotient false 0 1 = some x := hzero
      exact plain_of_ofQuotient hx
  · split
    · exact hinfinity
    · split
      · exact hnearest _ _
      · exact hnearest _ _

theorem plain_zero : Plain 0 := by
  unfold Plain
  rfl

namespace Plain

variable {x y : Float}

theorem isOrderly (hx : Plain x) : Scalar.isOrderly x = true := by
  unfold Scalar.isOrderly
  rw [same_eq_compare]
  unfold Plain at hx
  generalize x.toModel.unpack = u at hx
  cases u with
  | notANumber => exact hx.elim
  | infinity s => cases hx; rfl
  | zero s => cases hx; rfl
  | finite s m e hm =>
    cases hx
    simp [UnpackedFloat.compare]

/-- What is above a plain double is plain. -/
theorem of_lt (hx : Plain x) (h : x < y) : Plain y := by
  have hlt : x.toModel.unpack.lt y.toModel.unpack = true := by
    change Float.lt x y = true at h
    unfold Float.lt at h
    exact of_decide_eq_true h
  unfold Plain at hx ⊢
  unfold UnpackedFloat.lt at hlt
  have hturned : compare Sign.positive Sign.negative = .gt := rfl
  generalize x.toModel.unpack = u at hx hlt
  generalize y.toModel.unpack = v at hlt ⊢
  -- nothing with a minus sign is above what has none
  rcases u with (_ | _) | _ | (_ | _) | ⟨_ | _, m, e, _⟩ <;>
    rcases v with (_ | _) | _ | (_ | _) | ⟨_ | _, m', e', _⟩ <;>
    simp_all [UnpackedFloat.compare, PlainUnpacked]

theorem add (hx : Plain x) (hy : Plain y) : Plain (x + y) := by
  refine plain_pack ?_
  unfold Plain at hx hy
  generalize x.toModel.unpack = u at hx
  generalize y.toModel.unpack = v at hy
  rcases u with s | _ | s | ⟨s, m, e, hm⟩ <;> rcases v with s' | _ | s' | ⟨s', m', e', hm'⟩ <;>
    first | exact hx.elim | exact hy.elim | (cases hx; cases hy)
  all_goals first | rfl | skip
  -- two numbers
  unfold UnpackedFloat.add
  simp only [decreaseExponent, Sign.apply]
  rw [← Nat.cast_add]
  exact plain_normalize _ _

/-- The products with a positive number may be infinite, but not undefined. -/
theorem mul (hx : Plain x) {w : ℚ} (hy : StandsFor y w) : Plain (x * y) ∧ Plain (y * x) := by
  obtain ⟨m, e, hm, hunpack, -⟩ := hy
  have hboth : PlainUnpacked (UnpackedFloat.mul Format.binary64 x.toModel.unpack y.toModel.unpack) ∧
      PlainUnpacked (UnpackedFloat.mul Format.binary64 y.toModel.unpack x.toModel.unpack) := by
    rw [hunpack]
    unfold Plain at hx
    generalize x.toModel.unpack = u at hx
    cases u with
    | notANumber => exact hx.elim
    | infinity s => cases hx; exact ⟨rfl, rfl⟩
    | zero s => cases hx; exact ⟨rfl, rfl⟩
    | finite s m' e' hm' =>
      cases hx
      exact ⟨plain_round _ _ _, plain_round _ _ _⟩
  exact ⟨plain_pack hboth.1, plain_pack hboth.2⟩

/-- A plain double has no sign bit. -/
theorem parts (hx : Plain x) {negative : Bool} {m : ℕ} {e : ℤ}
    (h : Parts.ofFloat x = .finite negative m e) : negative = false := by
  have hbit : x.toBits.toNat / 2 ^ 63 ≠ 1 := by
    intro hone
    have hsign : @unpackSign Format.binary64 x.toBits.toBitVec ≠ 0#1 := by
      intro hzero
      have hfield := (unpack_fields x).2.2
      rw [hzero, hone] at hfield
      cases hfield
    have hnegative : Sign.ofBitVec (@unpackSign Format.binary64 x.toBits.toBitVec) = .negative :=
      if_neg hsign
    change PlainUnpacked (unpack Format.binary64 x.toBits.toBitVec) at hx
    unfold unpack at hx
    simp only [hnegative] at hx
    split at hx
    · split at hx <;> cases hx
    · split at hx
      · split at hx <;> cases hx
      · cases hx
  unfold Parts.ofFloat at h
  simp only [Nat.pow_eq, decide_eq_false hbit] at h
  split at h
  · split at h <;> cases h
  · split at h <;> cases h <;> rfl

theorem roundPlaces (hx : Plain x) (places : ℕ) : Plain (roundPlaces places x) := by
  unfold Number.roundPlaces
  split
  · rename_i negative m e hparts
    obtain rfl := hx.parts hparts
    simp only
    cases hround : ofQuotient false (roundHalfEven ((magnitude m e).1 * Nat.pow 10 places)
      (magnitude m e).2) (Nat.pow 10 places) with
    | none => exact hx
    | some y => exact plain_of_ofQuotient hround
  · exact hx

/-- What a plain double is rounded up to is not negative. -/
theorem ceil_nonneg (hx : Plain x) {n : ℤ} (h : ceilFloat x = .ok n) : 0 ≤ n := by
  unfold ceilFloat at h
  split at h
  · cases h
  · cases h
  · rename_i negative m e hparts
    obtain rfl := hx.parts hparts
    simp only [Bool.false_eq_true, if_false] at h
    cases h
    exact Int.natCast_nonneg _

end Plain

end EntitySearch.Number
