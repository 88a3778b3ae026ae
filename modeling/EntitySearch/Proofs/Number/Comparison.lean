import EntitySearch.Number.Scalar
import Mathlib
/-!
# Places of doubles

The doubles that can be compared stand in a linear order: infinities at its ends, numbers by sign,
exponent and significand, and the two zeros at one place. Comparing doubles is comparing their
places (`less_eq_place`, `same_eq_place`).
-/

namespace EntitySearch.Number

open Float.Model (UnpackedFloat)

/-! ## Unpacked doubles -/

/-- The place of an unpacked double: its kind, then exponent and significand, which count downwards
for negative numbers. -/
def unpackedPlace : UnpackedFloat → ℤ ×ₗ ℤ ×ₗ ℤ
  | .infinity .negative => toLex (-2, toLex (0, 0))
  | .finite .negative m e _ => toLex (-1, toLex (-e, -m))
  | .zero _ => toLex (0, toLex (0, 0))
  | .finite .positive m e _ => toLex (1, toLex (e, m))
  | .infinity .positive => toLex (2, toLex (0, 0))
  | .notANumber => toLex (0, toLex (0, 0))

theorem lex_lt_iff {ι κ : Type} [LinearOrder ι] [LinearOrder κ] {a b : ι} {x y : κ} :
    toLex (a, x) < toLex (b, y) ↔ a < b ∨ a = b ∧ x < y :=
  Prod.Lex.toLex_lt_toLex

/-! The exponents decide, and the significands where the exponents are equal. -/

section Digits

variable (e e' : ℤ) (m m' : ℕ)

theorem digits_eq_lt_iff :
    (compare e e').then (compare m m') = .lt ↔ e < e' ∨ e = e' ∧ m < m' := by
  rw [Ordering.then_eq_lt, compare_lt_iff_lt, compare_eq_iff_eq, compare_lt_iff_lt]

theorem digits_eq_gt_iff :
    (compare e e').then (compare m m') = .gt ↔ e' < e ∨ e = e' ∧ m' < m := by
  rw [Ordering.then_eq_gt, compare_gt_iff_gt, compare_eq_iff_eq, compare_gt_iff_gt]

end Digits

section Unpacked

variable {u v : UnpackedFloat} (hu : u ≠ .notANumber) (hv : v ≠ .notANumber)

include hu hv

theorem compare_eq_lt_iff : u.compare v = some .lt ↔ unpackedPlace u < unpackedPlace v := by
  have hsigns : compare UnpackedFloat.Sign.negative UnpackedFloat.Sign.positive = .lt := rfl
  -- only two numbers of one sign need their digits compared
  rcases u with (_ | _) | _ | _ | ⟨_ | _, m, e, _⟩ <;>
    rcases v with (_ | _) | _ | _ | ⟨_ | _, m', e', _⟩ <;>
    simp [UnpackedFloat.compare, unpackedPlace, lex_lt_iff, digits_eq_lt_iff, digits_eq_gt_iff,
      hsigns] at hu hv ⊢

theorem compare_eq_eq_iff : u.compare v = some .eq ↔ unpackedPlace u = unpackedPlace v := by
  have hsigns : compare UnpackedFloat.Sign.negative UnpackedFloat.Sign.positive = .lt := rfl
  have hturned : compare UnpackedFloat.Sign.positive UnpackedFloat.Sign.negative = .gt := rfl
  have hsame : ∀ s : UnpackedFloat.Sign, compare s s = .eq := fun s => by cases s <;> rfl
  rcases u with (_ | _) | _ | _ | ⟨_ | _, m, e, _⟩ <;>
    rcases v with (_ | _) | _ | _ | ⟨_ | _, m', e', _⟩ <;>
    simp [UnpackedFloat.compare, unpackedPlace, hsigns, hturned, hsame] at hu hv ⊢

end Unpacked

/-! ## Doubles -/

/-- The place of a double. -/
def place (x : Float) : ℤ ×ₗ ℤ ×ₗ ℤ := unpackedPlace x.toModel.unpack

theorem same_eq_compare (x y : Float) :
    Scalar.same x y = (x.toModel.unpack.compare y.toModel.unpack == some .eq) := rfl

theorem less_eq_compare (x y : Float) :
    Scalar.less x y = (x.toModel.unpack.compare y.toModel.unpack == some .lt) := by
  show decide (x < y) = _
  rw [Bool.eq_iff_iff, decide_eq_true_iff]
  exact decide_eq_true_iff

/-- A double that can be compared is defined. -/
theorem unpack_ne_of_isOrderly {x : Float} (h : Scalar.isOrderly x = true) :
    x.toModel.unpack ≠ .notANumber := by
  intro hnan
  unfold Scalar.isOrderly at h
  rw [same_eq_compare, hnan] at h
  cases h

/-- The doubles that can be compared are those that are numbers or infinite. -/
theorem isOrderly_eq_not_isNaN (x : Float) : Scalar.isOrderly x = !x.isNaN := by
  have hsigns : ∀ s : UnpackedFloat.Sign, compare s s = .eq := fun s => by cases s <;> rfl
  have hnan : x.isNaN = x.toModel.unpack.isNaN := rfl
  unfold Scalar.isOrderly
  rw [same_eq_compare, hnan]
  rcases x.toModel.unpack with (_ | _) | _ | _ | ⟨_ | _, m, e, _⟩ <;>
    simp [UnpackedFloat.compare, UnpackedFloat.isNaN, hsigns]

section Comparable

variable {x y : Float} (hx : Scalar.isOrderly x = true) (hy : Scalar.isOrderly y = true)

include hx hy

/-- A double is less than another if its place is below. -/
theorem less_eq_place : Scalar.less x y = decide (place x < place y) := by
  have hiff := compare_eq_lt_iff (unpack_ne_of_isOrderly hx) (unpack_ne_of_isOrderly hy)
  rw [less_eq_compare, Bool.eq_iff_iff, beq_iff_eq, decide_eq_true_iff]
  exact hiff

/-- Doubles compare as equal if their places are equal. -/
theorem same_eq_place : Scalar.same x y = decide (place x = place y) := by
  have hiff := compare_eq_eq_iff (unpack_ne_of_isOrderly hx) (unpack_ne_of_isOrderly hy)
  rw [same_eq_compare, Bool.eq_iff_iff, beq_iff_eq, decide_eq_true_iff]
  exact hiff

theorem lt_iff_place : x < y ↔ place x < place y := by
  have hless : Scalar.less x y = decide (x < y) := rfl
  have hplace := less_eq_place hx hy
  rw [hless] at hplace
  exact decide_eq_decide.mp hplace

theorem le_iff_place : x ≤ y ↔ place x ≤ place y := by
  have hcases : ∀ c : Option Ordering,
      c.any Ordering.isLE = true ↔ c = some .lt ∨ c = some .eq := by
    rintro (_ | _ | _ | _) <;> simp
  have hle : x ≤ y ↔ (x.toModel.unpack.compare y.toModel.unpack).any Ordering.isLE = true := by
    show decide (x.toModel ≤ y.toModel) = true ↔ _
    exact decide_eq_true_iff
  rw [hle, hcases, compare_eq_lt_iff (unpack_ne_of_isOrderly hx) (unpack_ne_of_isOrderly hy),
    compare_eq_eq_iff (unpack_ne_of_isOrderly hx) (unpack_ne_of_isOrderly hy)]
  exact le_iff_lt_or_eq.symm

theorem not_le_iff_lt : ¬ x ≤ y ↔ y < x := by
  rw [le_iff_place hx hy, lt_iff_place hy hx, not_le]

theorem not_lt_of_lt (h : x < y) : ¬ y < x := by
  rw [lt_iff_place hx hy] at h
  rw [lt_iff_place hy hx]
  exact h.asymm

/-- What is not passed by what is not passed. -/
theorem not_lt_trans {z : Float} (hz : Scalar.isOrderly z = true) (hxy : ¬ y < x) (hyz : ¬ z < y) :
    ¬ z < x := by
  rw [lt_iff_place hy hx, not_lt] at hxy
  rw [lt_iff_place hz hy, not_lt] at hyz
  rw [lt_iff_place hz hx, not_lt]
  exact hxy.trans hyz

end Comparable

end EntitySearch.Number
