import EntitySearch.Proofs.Number.Exact
import EntitySearch.Proofs.Number.Plain
/-!
# Raw scores

A raw score is the number of matched prefixes with a hundredth for each field that has a match. As
long as there are few fields, raw scores are in the order of these two numbers, the prefixes first:
without rounding always (`scoresInOrder_exact`), and in doubles for fewer than `2 ^ 40` prefixes
(`scoresInOrder_double`). In doubles raw scores can be compared in any case (`isOrderly_rawScore`).
-/

namespace EntitySearch

open Number (StandsFor Rounded)

/-- The raw score for a number of prefixes and a number of fields. -/
def rawScore (α : Type) [Scalar α] (prefixes fields : ℕ) : α :=
  Scalar.ofNat prefixes + Scalar.decimal 1 2 * Scalar.ofNat fields

/-- A hit has matched some prefixes, fewer than a bound, in one to four fields. -/
structure Usual (bound prefixes fields : ℕ) : Prop where
  somePrefix : 1 ≤ prefixes
  fewPrefixes : prefixes < bound
  someField : 1 ≤ fields
  fewFields : fields ≤ 4

/-- Raw scores can be compared, and for fewer prefixes than a bound they are in the order of the
prefixes and then of the fields. -/
structure ScoresInOrder (α : Type) [Scalar α] (bound : ℕ) : Prop where
  orderly : ∀ n k, Scalar.isOrderly (rawScore α n k) = true
  compare : ∀ {n n' k k'}, Usual bound n k → Usual bound n' k' →
    Scalar.less (rawScore α n k) (rawScore α n' k') = decide (n < n' ∨ n = n' ∧ k < k') ∧
      Scalar.same (rawScore α n k) (rawScore α n' k') = decide (n = n' ∧ k = k')

/-! ## Without rounding -/

theorem rawScore_exact (n k : ℕ) : rawScore ℚ n k = n + k / 100 := by
  show (n / 10 ^ 0 + ((1 : ℕ) / 10 ^ 2) * (k / 10 ^ 0) : ℚ) = _
  push_cast
  ring

/-- Numbers that are near raw scores are in the same order. -/
theorem compare_of_near {n n' k k' : ℕ} (hk : k ≤ 4) (hk' : k' ≤ 4) {v v' : ℚ}
    (hnear : |v - (n + k / 100)| < 1 / 200) (hnear' : |v' - (n' + k' / 100)| < 1 / 200)
    (hsame : n = n' ∧ k = k' → v = v') :
    (v < v' ↔ n < n' ∨ n = n' ∧ k < k') ∧ (v = v' ↔ n = n' ∧ k = k') := by
  have hless : ∀ (a a' b b' : ℕ) {w w' : ℚ}, b ≤ 4 → |w - (a + b / 100)| < 1 / 200 →
      |w' - (a' + b' / 100)| < 1 / 200 → a < a' ∨ a = a' ∧ b < b' → w < w' := by
    intro a a' b b' w w' hb hw hw' h
    rw [abs_lt] at hw hw'
    have hmost : (b : ℚ) ≤ 4 := by exact_mod_cast hb
    have hleast : (0 : ℚ) ≤ b' := Nat.cast_nonneg b'
    rcases h with hmore | ⟨rfl, hmore⟩
    · have hstep : (a : ℚ) + 1 ≤ a' := by exact_mod_cast hmore
      linarith
    · have hstep : (b : ℚ) + 1 ≤ b' := by exact_mod_cast hmore
      linarith
  have hbelow := hless n n' k k' hk hnear hnear'
  have habove := hless n' n k' k hk' hnear' hnear
  -- the numbers are the same, or in one order or the other
  rcases lt_trichotomy v v' with hlt | heq | hgt
  · have hnot : ¬ (n' < n ∨ n' = n ∧ k' < k) := fun h => lt_asymm hlt (habove h)
    have hother : ¬ (n = n' ∧ k = k') := fun h => hlt.ne (hsame h)
    simp only [hlt, hlt.ne, true_iff, false_iff]
    omega
  · have hnot : ¬ (n < n' ∨ n = n' ∧ k < k') := fun h => (hbelow h).ne heq
    have hnot' : ¬ (n' < n ∨ n' = n ∧ k' < k) := fun h => (habove h).ne heq.symm
    simp only [heq, lt_irrefl, true_iff, false_iff]
    omega
  · have hnot : ¬ (n < n' ∨ n = n' ∧ k < k') := fun h => lt_asymm hgt (hbelow h)
    have hother : ¬ (n = n' ∧ k = k') := fun h => hgt.ne' (hsame h)
    simp only [hgt.not_gt, hgt.ne', false_iff]
    omega

theorem scoresInOrder_exact (bound : ℕ) : ScoresInOrder ℚ bound := by
  constructor
  · intro n k
    exact decide_eq_true rfl
  · intro n n' k k' hfirst hsecond
    have hnear : ∀ n k, |rawScore ℚ n k - (n + k / 100)| < 1 / 200 := by
      intro n k
      rw [rawScore_exact, sub_self, abs_zero]
      norm_num
    have hcompare := compare_of_near hfirst.fewFields hsecond.fewFields (hnear n k) (hnear n' k')
      (by rintro ⟨rfl, rfl⟩; rfl)
    exact ⟨decide_eq_decide.mpr hcompare.1, decide_eq_decide.mpr hcompare.2⟩

/-! ## In doubles -/

/-- A hundredth in doubles. -/
theorem exists_hundredth : ∃ v, StandsFor (Scalar.decimal 1 2) v ∧ |v - 1 / 100| ≤ 1 / 2 ^ 59 := by
  have hbits : (Scalar.decimal 1 2 : Float) =
      Float.ofBits (.ofNat ((-59 + 1074 : ℤ).toNat * 2 ^ 52 + 5764607523034235)) := by
    decide +kernel
  rw [hbits]
  refine ⟨_, Number.standsFor_ofBits (by decide) (by decide) (by decide) (by decide), ?_⟩
  rw [abs_le]
  norm_num

theorem isOrderly_rawScore (n k : ℕ) : Scalar.isOrderly (rawScore Float n k) = true := by
  obtain ⟨v, hv, -⟩ := exists_hundredth
  exact ((Number.plain_ofNat n).add ((Number.plain_ofNat k).mul hv).2).isOrderly

/-- A raw score in doubles stands for a number near the raw score without rounding. -/
theorem exists_rawScore {n k : ℕ} (h : Usual (2 ^ 40) n k) :
    ∃ v, StandsFor (rawScore Float n k) v ∧ |v - (n + k / 100)| ≤ 1 / 2 ^ 12 := by
  obtain ⟨hn, hn', hk, hk'⟩ := h
  have hone : (1 : ℚ) ≤ n := by exact_mod_cast hn
  have hmany : (n : ℚ) < 2 ^ 40 := by exact_mod_cast hn'
  have hfield : (1 : ℚ) ≤ k := by exact_mod_cast hk
  have hfew : (k : ℚ) ≤ 4 := by exact_mod_cast hk'
  obtain ⟨hundredth, hstands, hclose⟩ := exists_hundredth
  -- the hundredths are rounded, and then the sum
  have hproduct : |hundredth * k - k / 100| ≤ 4 / 2 ^ 59 := by
    have hfactor : hundredth * k - k / 100 = (hundredth - 1 / 100) * k := by ring
    rw [hfactor, abs_mul, Nat.abs_cast]
    calc |hundredth - 1 / 100| * k ≤ 1 / 2 ^ 59 * 4 :=
          mul_le_mul hclose hfew (by positivity) (by positivity)
      _ = 4 / 2 ^ 59 := by ring
  rw [abs_le] at hproduct
  obtain ⟨y, hy, hrounded⟩ := (hstands.mul (Number.standsFor_ofNat hk (by omega))
    (Number.ordinary_of_le (by linarith) (by linarith))).exists_close (-13)
    (by norm_num; linarith)
  have hthirteenth : (2 : ℚ) ^ (-13 : ℤ) = 1 / 2 ^ 13 := by norm_num
  rw [hthirteenth, abs_le] at hrounded
  obtain ⟨v, hv, hrounded'⟩ := ((Number.standsFor_ofNat hn (by omega)).add hy
    (Number.ordinary_of_le (by linarith) (by linarith))).exists_close (-12)
    (by norm_num; linarith)
  have htwelfth : (2 : ℚ) ^ (-12 : ℤ) = 1 / 2 ^ 12 := by norm_num
  rw [htwelfth, abs_le] at hrounded'
  refine ⟨v, hv, abs_le.mpr ⟨?_, ?_⟩⟩ <;> linarith

/-- Raw scores in doubles are in order for fewer than `2 ^ 40` prefixes. -/
theorem scoresInOrder_double : ScoresInOrder Float (2 ^ 40) := by
  refine ⟨isOrderly_rawScore, ?_⟩
  intro n n' k k' hfirst hsecond
  obtain ⟨v, hv, hnear⟩ := exists_rawScore hfirst
  obtain ⟨v', hv', hnear'⟩ := exists_rawScore hsecond
  have hsmall : (1 / 2 ^ 12 : ℚ) < 1 / 200 := by norm_num
  have hcompare := compare_of_near hfirst.fewFields hsecond.fewFields (hnear.trans_lt hsmall)
    (hnear'.trans_lt hsmall) (by rintro ⟨rfl, rfl⟩; exact hv.unique hv')
  rw [hv.less_eq hv', hv.same_eq hv', decide_eq_decide, decide_eq_decide]
  exact hcompare

end EntitySearch
