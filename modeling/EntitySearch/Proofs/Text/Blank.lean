import EntitySearch.Text.Blank
import Mathlib
/-!
# Maximal runs between blanks

`Runs text runs` says what it is to cut a text at its blanks: gaps of blanks take turns with solid
texts, and behind a solid text there is a blank or nothing. The cut exists and is unique, and
`splitBlank` computes it (`runs_iff`).
-/

namespace EntitySearch.Text

/-- A text with something in it and no blank. -/
def Solid (text : Text) : Prop := text ≠ [] ∧ ∀ c ∈ text, isBlank c = false

/-- The maximal runs of characters that are not blank, from left to right. -/
inductive Runs : Text → List Text → Prop where
  | gap {gap : Text} (hgap : ∀ c ∈ gap, isBlank c = true) : Runs gap []
  | run (gap : Text) {run rest : Text} {runs : List Text} (hgap : ∀ c ∈ gap, isBlank c = true)
      (hrun : Solid run) (hend : ∀ c ∈ rest.head?, isBlank c = true) (hrest : Runs rest runs) :
      Runs (gap ++ run ++ rest) (run :: runs)

/-! ## Cutting -/

theorem splitBlankFrom_gap {gap : Text} (hgap : ∀ c ∈ gap, isBlank c = true) (rest : Text) :
    splitBlankFrom [] (gap ++ rest) = splitBlankFrom [] rest := by
  induction gap with
  | nil => rfl
  | cons c gap ih =>
    rw [List.forall_mem_cons] at hgap
    simpa [splitBlankFrom, hgap.1] using ih hgap.2

theorem splitBlankFrom_run {run : Text} (hrun : ∀ c ∈ run, isBlank c = false)
    (pending rest : Text) :
    splitBlankFrom pending (run ++ rest) = splitBlankFrom (run.reverse ++ pending) rest := by
  induction run generalizing pending with
  | nil => rfl
  | cons c run ih =>
    rw [List.forall_mem_cons] at hrun
    simpa [splitBlankFrom, hrun.1] using ih hrun.2 (c :: pending)

/-- A run ends where a blank follows or nothing. -/
theorem splitBlankFrom_end {pending rest : Text} (hpending : pending ≠ [])
    (hend : ∀ c ∈ rest.head?, isBlank c = true) :
    splitBlankFrom pending rest = pending.reverse :: splitBlankFrom [] rest := by
  cases rest with
  | nil => simp [splitBlankFrom, hpending]
  | cons c rest => simp [splitBlankFrom, hpending, hend c rfl]

theorem Runs.eq_splitBlank {text : Text} {runs : List Text} (h : Runs text runs) :
    splitBlank text = runs := by
  unfold splitBlank
  induction h with
  | gap hgap => simpa [splitBlankFrom] using splitBlankFrom_gap hgap []
  | @run gap run rest runs hgap hrun hend _ ih =>
    have hpending : run.reverse ++ [] ≠ [] := by simpa using hrun.1
    rw [List.append_assoc, splitBlankFrom_gap hgap, splitBlankFrom_run hrun.2,
      splitBlankFrom_end hpending hend, ih]
    simp

/-- A blank in front belongs to no run. -/
theorem Runs.cons_blank {c : CodePoint} {text : Text} {runs : List Text} (hc : isBlank c = true)
    (h : Runs text runs) : Runs (c :: text) runs := by
  cases h with
  | gap hgap => exact .gap (List.forall_mem_cons.mpr ⟨hc, hgap⟩)
  | run gap hgap hrun hend hrest =>
    exact .run (c :: gap) (List.forall_mem_cons.mpr ⟨hc, hgap⟩) hrun hend hrest

/-- The run that has begun and the text that is left are cut into that run, if there is one, and the
runs of the rest. -/
theorem runs_splitBlankFrom (pending text : Text) (hpending : ∀ c ∈ pending, isBlank c = false) :
    Runs (pending.reverse ++ text) (splitBlankFrom pending text) := by
  have hsolid : ∀ {run : Text}, run ≠ [] → (∀ c ∈ run, isBlank c = false) → Solid run.reverse :=
    fun hne h => ⟨by simpa using hne, fun c hc => h c (List.mem_reverse.mp hc)⟩
  -- along the text; the run that has begun is carried along and ends at the first blank
  induction text generalizing pending with
  | nil =>
    by_cases hnone : pending = []
    · subst hnone
      exact .gap (by simp)
    · rw [splitBlankFrom_end hnone (by simp)]
      exact .run [] (by simp) (hsolid hnone hpending) (by simp) (.gap (by simp))
  | cons c rest ih =>
    by_cases hc : isBlank c = true
    · have hrest : Runs (c :: rest) (splitBlankFrom [] (c :: rest)) := by
        simpa [splitBlankFrom, hc] using (ih [] (by simp)).cons_blank hc
      by_cases hnone : pending = []
      · subst hnone
        exact hrest
      · have hend : ∀ d ∈ (c :: rest).head?, isBlank d = true := by simpa using hc
        rw [splitBlankFrom_end hnone hend]
        exact .run [] (by simp) (hsolid hnone hpending) hend hrest
    · have hc' : isBlank c = false := by simpa using hc
      simpa [splitBlankFrom, hc'] using ih (c :: pending) (List.forall_mem_cons.mpr ⟨hc', hpending⟩)

/-- Every text has one cut into maximal runs. -/
theorem runs_iff {text : Text} {runs : List Text} : Runs text runs ↔ splitBlank text = runs := by
  refine ⟨Runs.eq_splitBlank, ?_⟩
  rintro rfl
  exact runs_splitBlankFrom [] text (by simp)

theorem Runs.solid {text : Text} {runs : List Text} (h : Runs text runs) :
    ∀ run ∈ runs, Solid run := by
  induction h with
  | gap => simp
  | run _ _ hrun _ _ ih => exact List.forall_mem_cons.mpr ⟨hrun, ih⟩

theorem solid_of_mem_splitBlank {text run : Text} (h : run ∈ splitBlank text) : Solid run :=
  (runs_iff.mpr rfl).solid run h

theorem splitBlank_of_solid {text : Text} (h : Solid text) : splitBlank text = [text] := by
  have hruns := Runs.run [] (by simp) h (by simp) (.gap (List.forall_mem_nil _))
  rw [List.nil_append, List.append_nil] at hruns
  exact hruns.eq_splitBlank

/-! ## Stripping -/

theorem strip_eq_self {text : Text} (h : ∀ c ∈ text, isBlank c = false) : strip text = text := by
  have hkeep : ∀ {t : Text}, (∀ c ∈ t, isBlank c = false) → t.dropWhile isBlank = t := by
    intro t ht
    cases t with
    | nil => rfl
    | cons c t => rw [List.dropWhile_cons_of_neg (by simp [ht c List.mem_cons_self])]
  rw [strip, stripEnd, hkeep h, hkeep fun c hc => h c (List.mem_reverse.mp hc),
    List.reverse_reverse]

end EntitySearch.Text
