import EntitySearch.Text.Word
import Mathlib
/-!
# Where words stand

`Span text start stop` says that a word of a text stands between two positions: word characters
only, and none beside them. Words stand apart (`Span.apart`). `Scan` is what it is to go through the
words of a text from left to right without leaving one out, which is what `wordsAt` does
(`scan_wordsAt`); what is found first in a scan is the first there is (`Scan.find?_eq_some`).
-/

namespace EntitySearch.Text

/-- Whether a word character stands at a position. -/
def wordCharAt (text : Text) (position : Nat) : Bool := text[position]?.any isWordChar

/-- A word stands between two positions. -/
structure Span (text : Text) (start stop : Nat) : Prop where
  lt : start < stop
  inside : ∀ i, start ≤ i → i < stop → wordCharAt text i = true
  before : ∀ i, i + 1 = start → wordCharAt text i = false
  behind : wordCharAt text stop = false

/-- What stands between two positions, with its surroundings. -/
def WordAt.between (text : Text) (start stop : Nat) : WordAt :=
  ⟨(text.take start).reverse, text.extract start stop, text.drop stop⟩

/-! ## Spans -/

namespace Span

variable {text : Text} {start stop : Nat}

theorem wordCharAt_start (h : Span text start stop) : wordCharAt text start = true :=
  h.inside start le_rfl h.lt

theorem stop_le_length (h : Span text start stop) : stop ≤ text.length := by
  have hlt := h.lt
  have hlast := h.inside (stop - 1) (by omega) (by omega)
  by_contra hbeyond
  have hnone : text[stop - 1]? = none := List.getElem?_eq_none (by omega)
  rw [wordCharAt, hnone] at hlast
  cases hlast

/-- Of two words one stands before the other, with something between them, unless they are the
same. -/
theorem apart (h : Span text start stop) {start' stop' : Nat} (h' : Span text start' stop')
    (hle : start ≤ start') : (start' = start ∧ stop' = stop) ∨ stop < start' := by
  by_contra hmeet
  push Not at hmeet
  obtain ⟨hsame, hstarts⟩ := hmeet
  -- a word does not begin within another one or right behind it
  have hstart : start' = start := by
    by_contra hne
    have hword := h.inside (start' - 1) (by omega) (by omega)
    have hnone := h'.before (start' - 1) (by omega)
    rw [hword] at hnone
    cases hnone
  have hstop := hsame hstart
  -- and of two that begin together none goes on behind the other
  rcases Nat.lt_or_gt_of_ne hstop with hlt | hgt
  · have hword := h.inside stop' (by have := h'.lt; omega) hlt
    rw [h'.behind] at hword
    cases hword
  · have hword := h'.inside stop (by have := h.lt; omega) hgt
    rw [h.behind] at hword
    cases hword

end Span

theorem wordCharAt_append_left {before behind : Text} {i : Nat} (h : i < before.length) :
    wordCharAt (before ++ behind) i = wordCharAt before i := by
  rw [wordCharAt, wordCharAt, List.getElem?_append_left h]

theorem wordCharAt_append_right (before behind : Text) (i : Nat) :
    wordCharAt (before ++ behind) (before.length + i) = wordCharAt behind i := by
  rw [wordCharAt, wordCharAt, List.getElem?_append_right (Nat.le_add_right _ _),
    Nat.add_sub_cancel_left]

/-- A text that a word goes through shows it between its positions. -/
theorem between_append (before run behind : Text) :
    WordAt.between (before ++ run ++ behind) before.length (before.length + run.length) =
      ⟨before.reverse, run, behind⟩ := by
  have htake : (before ++ run ++ behind).take before.length = before := by
    rw [List.append_assoc, List.take_left]
  have hextract : (before ++ run ++ behind).extract before.length (before.length + run.length) =
      run := by
    rw [List.extract_eq_take_drop, List.append_assoc, List.drop_left, Nat.add_sub_cancel_left,
      List.take_left]
  have hdrop : (before ++ run ++ behind).drop (before.length + run.length) = behind := by
    rw [← List.length_append, List.drop_left]
  rw [WordAt.between, htake, hextract, hdrop]

/-- A word that goes on until the text does or another character follows stands in its place. -/
theorem span_append {before run behind : Text} (hne : run ≠ [])
    (hrun : ∀ c ∈ run, isWordChar c = true) (hbefore : ∀ c ∈ before.getLast?, isWordChar c = false)
    (hbehind : ∀ c ∈ behind.head?, isWordChar c = false) :
    Span (before ++ run ++ behind) before.length (before.length + run.length) where
  lt := Nat.lt_add_of_pos_right (List.length_pos_iff.mpr hne)
  inside := by
    intro i hstart hstop
    obtain ⟨k, rfl⟩ := Nat.exists_eq_add_of_le hstart
    have hk : k < run.length := by omega
    rw [List.append_assoc, wordCharAt_append_right, wordCharAt_append_left hk, wordCharAt,
      List.getElem?_eq_getElem hk]
    exact hrun _ (List.getElem_mem hk)
  before := by
    intro i hi
    rw [List.append_assoc, wordCharAt_append_left (by omega), wordCharAt]
    have hlast : before.getLast? = before[i]? := by
      rw [List.getLast?_eq_getElem?, ← hi, Nat.add_sub_cancel]
    rw [← hlast, Option.any_eq_false]
    simpa using hbefore
  behind := by
    rw [← List.length_append, ← Nat.add_zero (before ++ run).length, wordCharAt_append_right,
      wordCharAt, ← List.head?_eq_getElem?, Option.any_eq_false]
    simpa using hbehind

/-! ## Scans -/

/-- The words of a text that stand at a position or behind it, from left to right. -/
inductive Scan (text : Text) : Nat → List WordAt → Prop where
  | ended {position : Nat} (hnone : ∀ start stop, position ≤ start → ¬ Span text start stop) :
      Scan text position []
  | found {position start stop : Nat} {words : List WordAt} (hspan : Span text start stop)
      (hfirst : ∀ start' stop', position ≤ start' → Span text start' stop' → start ≤ start')
      (hrest : Scan text stop words) : Scan text position (.between text start stop :: words)

namespace Scan

variable {text : Text} {position : Nat} {words : List WordAt}

/-- No word stands where no word character does. -/
theorem skip (hother : wordCharAt text position = false) (h : Scan text (position + 1) words) :
    Scan text position words := by
  have hbehind : ∀ {start stop}, position ≤ start → Span text start stop →
      position + 1 ≤ start := by
    intro start stop hle hspan
    have hne : start ≠ position := by
      rintro rfl
      rw [hspan.wordCharAt_start] at hother
      cases hother
    omega
  cases h with
  | ended hnone =>
    exact .ended fun start stop hle hspan => hnone start stop (hbehind hle hspan) hspan
  | found hspan hfirst hrest =>
    exact .found hspan (fun start stop hle h => hfirst start stop (hbehind hle h) h) hrest

/-- What is found first in a scan is the first word with the property. -/
theorem find?_eq_some (h : Scan text position words) {p : WordAt → Bool} {w : WordAt}
    (hw : words.find? p = some w) :
    ∃ start stop, w = .between text start stop ∧ Span text start stop ∧
      ∀ start' stop', position ≤ start' → Span text start' stop' →
        p (.between text start' stop') = true → start ≤ start' := by
  induction h with
  | ended => cases hw
  | @found position start stop words hspan hfirst _ ih =>
    by_cases hhead : p (.between text start stop) = true
    · rw [List.find?_cons_of_pos hhead] at hw
      cases hw
      exact ⟨start, stop, rfl, hspan, fun start' stop' hle hspan' _ =>
        hfirst start' stop' hle hspan'⟩
    · rw [List.find?_cons_of_neg hhead] at hw
      obtain ⟨start', stop', rfl, hspan', hleast⟩ := ih hw
      refine ⟨start', stop', rfl, hspan', ?_⟩
      intro other otherStop hle hother hp
      -- a word with the property is not the head, so it stands behind it
      rcases hspan.apart hother (hfirst other otherStop hle hother) with ⟨rfl, rfl⟩ | hbehind
      · exact absurd hp hhead
      · exact hleast other otherStop hbehind.le hother hp

end Scan

/-- Going on from a run of word characters that has begun finds the words from that run on. -/
theorem scan_wordsFrom (before run text : Text) (hrun : ∀ c ∈ run, isWordChar c = true)
    (hbefore : ∀ c ∈ before.head?, isWordChar c = false) :
    Scan (before.reverse ++ run.reverse ++ text) before.length (wordsFrom before run text) := by
  have hspan : ∀ {before run behind : Text}, run ≠ [] → (∀ c ∈ run, isWordChar c = true) →
      (∀ c ∈ before.head?, isWordChar c = false) →
      (∀ c ∈ behind.head?, isWordChar c = false) →
      Span (before.reverse ++ run.reverse ++ behind) before.length
        (before.length + run.length) := by
    intro before run behind hne hrun hbefore hbehind
    have h : Span (before.reverse ++ run.reverse ++ behind) before.reverse.length
        (before.reverse.length + run.reverse.length) :=
      span_append (by simpa using hne) (by simpa using hrun) (by simpa using hbefore) hbehind
    simpa using h
  have hshown : ∀ before run behind : Text,
      (⟨before, run.reverse, behind⟩ : WordAt) =
        .between (before.reverse ++ run.reverse ++ behind) before.length
          (before.length + run.length) := by
    intro before run behind
    have h := between_append before.reverse run.reverse behind
    simpa using h.symm
  -- along the text; the run that has begun is carried along and ends at the first other character
  induction text generalizing before run with
  | nil =>
    by_cases hnone : run = []
    · subst hnone
      refine .ended fun start stop hle h => ?_
      have hlt := h.lt
      have hlength := h.stop_le_length
      simp at hlength
      omega
    · have hone : wordsFrom before run [] = [⟨before, run.reverse, []⟩] := by
        simp [wordsFrom, hnone]
      rw [hone, hshown]
      refine .found (hspan hnone hrun hbefore (by simp)) (fun _ _ hle _ => hle) (.ended ?_)
      intro start stop hle h
      have hlt := h.lt
      have hlength := h.stop_le_length
      simp at hlength
      omega
  | cons c rest ih =>
    by_cases hc : isWordChar c = true
    · have hmore := ih before (c :: run) (List.forall_mem_cons.mpr ⟨hc, hrun⟩) hbefore
      simpa [wordsFrom, hc] using hmore
    · have hother : isWordChar c = false := by simpa using hc
      have hbehind := ih (c :: (run ++ before)) [] (List.forall_mem_nil _) (by simpa using hother)
      have htext : (c :: (run ++ before)).reverse ++ ([] : Text).reverse ++ rest =
          before.reverse ++ run.reverse ++ c :: rest := by simp
      have hlength : (c :: (run ++ before)).length = before.length + run.length + 1 := by
        simp; omega
      rw [htext, hlength] at hbehind
      -- the words behind the other character are also those from that character on
      have hhere : wordCharAt (before.reverse ++ run.reverse ++ c :: rest)
          (before.length + run.length) = false := by
        simp [wordCharAt, hother]
      have hscan := hbehind.skip hhere
      by_cases hnone : run = []
      · subst hnone
        simpa [wordsFrom, hother] using hscan
      · have hcons : wordsFrom before run (c :: rest) =
            ⟨before, run.reverse, c :: rest⟩ :: wordsFrom (c :: (run ++ before)) [] rest := by
          simp [wordsFrom, hother, hnone]
        rw [hcons, hshown]
        exact .found (hspan hnone hrun hbefore (by simpa using hother)) (fun _ _ hle _ => hle) hscan

/-- The words of a text are found from left to right, and none is left out. -/
theorem scan_wordsAt (text : Text) : Scan text 0 (wordsAt text) :=
  scan_wordsFrom [] [] text (List.forall_mem_nil _) (by simp)

end EntitySearch.Text
