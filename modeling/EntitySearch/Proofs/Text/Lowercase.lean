import EntitySearch.Proofs.Text.Blank
import EntitySearch.Text.Lowercase
import Mathlib
/-!
# Lower-casing keeps texts solid

Lower-casing leaves no character out, and of a class of characters into which no run of `lowerRuns`
leads it makes none (`Avoided.lowerFrom`). It makes no blanks: a text without blanks stays one
(`Solid.lower`).
-/

namespace EntitySearch.Text

/-! ## Shifted code points -/

/-- A code point stays where it is or is shifted by a run that holds it. -/
theorem shiftIn_cases (runs : List (Nat × Nat × Nat × Int)) (n : Nat) :
    shiftIn runs n = n ∨
      ∃ r ∈ runs, r.1 ≤ n ∧ n ≤ r.2.1 ∧ shiftIn runs n = (n + r.2.2.2).toNat := by
  induction runs with
  | nil => exact Or.inl rfl
  | cons r rest ih =>
    obtain ⟨first, last, step, shift⟩ := r
    simp only [shiftIn]
    split
    · exact Or.inl rfl
    · split
      · next hfirst hin =>
        exact Or.inr ⟨_, List.mem_cons_self, Nat.le_of_not_lt hfirst, hin.1, rfl⟩
      · rcases ih with heq | ⟨r, hr, h⟩
        · exact Or.inl heq
        · exact Or.inr ⟨r, List.mem_cons_of_mem _ hr, h⟩

theorem code_ofCode (n : Nat) : (CodePoint.ofCode n).code = n ∨ (CodePoint.ofCode n).code = 0 := by
  unfold CodePoint.ofCode
  split
  · next h =>
    left
    simp only [CodePoint.code]
    omega
  · simp only [CodePoint.code, Char.toNat_ofNat]
    split
    · exact Or.inl rfl
    · exact Or.inr rfl

/-- Lower-casing leads into none of some ranges. -/
structure Avoided (ranges : List (Nat × Nat)) : Prop where
  positive : ∀ b ∈ ranges, 0 < b.1
  /-- All that a run leads to lies before or behind every range. -/
  runs : ∀ r ∈ lowerRuns, ∀ b ∈ ranges,
    (r.2.1 + r.2.2.2 : Int) < b.1 ∨ (b.2 : Int) < r.1 + r.2.2.2
  /-- What does not come from a run lies in no range. -/
  others : ∀ d ∈ (['i', '\u0307', '\u03c2', '\u03c3'] : Text), inRanges ranges d.code = false

theorem avoided_blankRanges : Avoided blankRanges where
  positive := by decide
  runs := by decide +kernel
  others := by decide

theorem lowerAt_ne_nil (before : Text) (c : CodePoint) (after : Text) :
    lowerAt before c after ≠ [] := by
  unfold lowerAt
  split_ifs <;> simp

namespace Avoided

variable {ranges : List (Nat × Nat)} (h : Avoided ranges)

include h

theorem lowerSimple {c : CodePoint} (hc : inRanges ranges c.code = false) :
    inRanges ranges (lowerSimple c).code = false := by
  unfold Text.lowerSimple
  rcases shiftIn_cases lowerRuns c.code with heq | ⟨r, hr, hfirst, hlast, heq⟩
  · rw [heq, CodePoint.ofCode_code]
    exact hc
  · by_contra hin
    rw [Bool.not_eq_false] at hin
    obtain ⟨b, hb, hlow, hhigh⟩ := exists_of_inRanges hin
    have hmiss := h.runs r hr b hb
    have hpositive := h.positive b hb
    rcases code_ofCode (shiftIn lowerRuns c.code) with hcode | hcode <;> omega

theorem lowerAt {before after : Text} {c d : CodePoint} (hc : inRanges ranges c.code = false)
    (hd : d ∈ lowerAt before c after) : inRanges ranges d.code = false := by
  unfold Text.lowerAt at hd
  split_ifs at hd
  · rw [List.mem_pair] at hd
    rcases hd with rfl | rfl <;> exact h.others _ (by simp)
  · rw [List.mem_singleton.mp hd]
    exact h.others _ (by simp)
  · rw [List.mem_singleton.mp hd]
    exact h.others _ (by simp)
  · rw [List.mem_singleton.mp hd]
    exact h.lowerSimple hc

/-- A text with nothing in the ranges has nothing in them in lower case. -/
theorem lowerFrom {before text : Text} (htext : ∀ c ∈ text, inRanges ranges c.code = false) :
    ∀ d ∈ lowerFrom before text, inRanges ranges d.code = false := by
  induction text generalizing before with
  | nil => simp [Text.lowerFrom]
  | cons c rest ih =>
    rw [List.forall_mem_cons] at htext
    intro d hd
    rw [Text.lowerFrom, List.mem_append] at hd
    rcases hd with hd | hd
    · exact h.lowerAt htext.1 hd
    · exact ih htext.2 d hd

end Avoided

/-! ## Lower-cased texts -/

@[simp] theorem lower_eq_nil_iff {text : Text} : lower text = [] ↔ text = [] := by
  cases text with
  | nil => simp [lower, lowerFrom]
  | cons c rest => simp [lower, lowerFrom, lowerAt_ne_nil]

theorem Solid.lower {text : Text} (h : Solid text) : Solid (lower text) :=
  ⟨by simpa using h.1, avoided_blankRanges.lowerFrom h.2⟩

end EntitySearch.Text
