import EntitySearch.Proofs.Text.Lowercase
import EntitySearch.Text.Word
/-!
# Words of a text

`HasWord text word` says where the words of a text are: in runs of word characters with no word
character beside them. A character of another kind separates what is before it from what is behind
(`hasWord_append_cons`), from which it follows that `wordsOf` finds exactly these
(`mem_wordsOf_iff`). What begins a word in lower case is itself some word in lower case
(`exists_lower_eq_of_prefix`).
-/

namespace EntitySearch.Text

/-- A text with something in it and word characters only. -/
def IsWord (word : Text) : Prop := word ≠ [] ∧ ∀ c ∈ word, isWordChar c = true

/-- A word stands in a text: what is beside it, if anything, is no word character. -/
def HasWord (text word : Text) : Prop :=
  IsWord word ∧ ∃ before after, text = before ++ word ++ after ∧
    (∀ c ∈ before.getLast?, isWordChar c = false) ∧ ∀ c ∈ after.head?, isWordChar c = false

/-! ## Words and other characters -/

theorem not_hasWord_nil {word : Text} : ¬ HasWord [] word := by
  rintro ⟨hword, before, after, htext, -⟩
  exact hword.1 (List.append_eq_nil_iff.mp (List.append_eq_nil_iff.mp htext.symm).1).2

/-- A word is all that stands in it. -/
theorem hasWord_iff_of_isWord {run word : Text} (hrun : IsWord run) :
    HasWord run word ↔ word = run := by
  constructor
  · rintro ⟨-, before, after, htext, hbefore, hafter⟩
    have hall : ∀ c ∈ before ++ word ++ after, isWordChar c = true := htext ▸ hrun.2
    have hnone : before = [] := by
      rcases before.eq_nil_or_concat' with hnil | ⟨init, c, rfl⟩
      · exact hnil
      · have hc := hbefore c (by simp)
        rw [hall c (by simp)] at hc
        cases hc
    have hend : after = [] := by
      cases after with
      | nil => rfl
      | cons c rest =>
        have hc := hafter c rfl
        rw [hall c (by simp)] at hc
        cases hc
    rw [htext, hnone, hend]
    simp
  · rintro rfl
    exact ⟨hrun, [], [], by simp, by simp, by simp⟩

/-- A character of another kind keeps what is before it apart from what is behind. -/
theorem hasWord_append_cons {c : CodePoint} (hc : isWordChar c = false) {x y word : Text} :
    HasWord (x ++ c :: y) word ↔ HasWord x word ∨ HasWord y word := by
  constructor
  · rintro ⟨hword, before, after, htext, hbefore, hafter⟩
    have hother : c ∉ word := by
      intro hmem
      rw [hword.2 c hmem] at hc
      cases hc
    rcases List.append_eq_append_iff.mp htext with ⟨rest, hleft, hright⟩ | ⟨rest, hleft, hright⟩
    · -- the character is in the word or beside it
      cases rest with
      | nil =>
        left
        rw [List.append_nil] at hleft
        exact ⟨hword, before, [], by simpa using hleft.symm, hbefore, by simp⟩
      | cons d rest =>
        rw [List.cons_append, List.cons.injEq] at hright
        obtain ⟨rfl, rfl⟩ := hright
        rcases List.append_eq_append_iff.mp hleft with ⟨tail, -, hin⟩ | ⟨tail, hbefore', hin⟩
        · have hmem : c ∈ word := by
            rw [hin]
            exact List.mem_append_right _ List.mem_cons_self
          exact absurd hmem hother
        · cases tail with
          | nil =>
            have hmem : c ∈ word := by
              rw [List.nil_append] at hin
              rw [← hin]
              exact List.mem_cons_self
            exact absurd hmem hother
          | cons e tail =>
            right
            rw [List.cons_append, List.cons.injEq] at hin
            obtain ⟨rfl, rfl⟩ := hin
            refine ⟨hword, tail, after, rfl, ?_, hafter⟩
            intro d hd
            apply hbefore d
            rw [hbefore']
            cases tail with
            | nil => cases hd
            | cons e tail => simpa using hd
    · -- the word ends before the character
      left
      refine ⟨hword, before, rest, hleft, hbefore, ?_⟩
      intro d hd
      apply hafter d
      rw [hright]
      cases rest with
      | nil => cases hd
      | cons e rest => exact hd
  · intro hword
    rcases hword with ⟨hword, before, after, rfl, hbefore, hafter⟩ |
      ⟨hword, before, after, rfl, hbefore, hafter⟩
    · refine ⟨hword, before, after ++ c :: y, by simp, hbefore, ?_⟩
      cases after with
      | nil => simpa using hc
      | cons d rest => exact hafter
    · refine ⟨hword, x ++ c :: before, after, by simp, ?_, hafter⟩
      rcases before.eq_nil_or_concat' with rfl | ⟨init, d, rfl⟩
      · simpa using hc
      · have hlast : (x ++ c :: (init ++ [d])).getLast? = (init ++ [d]).getLast? := by
          rw [← List.cons_append, ← List.append_assoc, List.getLast?_concat, List.getLast?_concat]
        rw [hlast]
        exact hbefore

/-! ## Finding words -/

/-- What has been passed does not change which words follow. -/
theorem map_word_wordsFrom (before run text : Text) :
    (wordsFrom before run text).map WordAt.word = (wordsFrom [] run text).map WordAt.word := by
  induction text generalizing before run with
  | nil => by_cases hrun : run = [] <;> simp [wordsFrom, hrun]
  | cons c rest ih =>
    by_cases hc : isWordChar c = true
    · simpa [wordsFrom, hc] using ih before (c :: run)
    · by_cases hrun : run = []
      · simp only [wordsFrom, hc, hrun, List.isEmpty_nil, if_true, Bool.false_eq_true, if_false]
        rw [ih (c :: before) [], ih [c] []]
      · simp only [wordsFrom, hc, List.isEmpty_iff, hrun, Bool.false_eq_true, if_false,
          List.map_cons]
        rw [ih (c :: (run ++ before)) [], ih (c :: (run ++ [])) []]

theorem mem_wordsFrom_iff {run : Text} (hrun : ∀ c ∈ run, isWordChar c = true) (text : Text)
    {word : Text} :
    word ∈ (wordsFrom [] run text).map WordAt.word ↔ HasWord (run.reverse ++ text) word := by
  have hisWord : ∀ {run : Text}, run ≠ [] → (∀ c ∈ run, isWordChar c = true) →
      IsWord run.reverse := by
    intro run hne h
    exact ⟨by simpa using hne, fun c hc => h c (List.mem_reverse.mp hc)⟩
  -- along the text; the run that has begun is carried along and ends at the first other character
  induction text generalizing run with
  | nil =>
    by_cases hnone : run = []
    · subst hnone
      simp [wordsFrom, not_hasWord_nil]
    · simp [wordsFrom, hnone, hasWord_iff_of_isWord (hisWord hnone hrun)]
  | cons c rest ih =>
    by_cases hc : isWordChar c = true
    · have hmore : ∀ d ∈ c :: run, isWordChar d = true := List.forall_mem_cons.mpr ⟨hc, hrun⟩
      simpa [wordsFrom, hc] using ih hmore
    · have hother : isWordChar c = false := by simpa using hc
      have hrest : ∀ before, word ∈ (wordsFrom before [] rest).map WordAt.word ↔
          HasWord rest word := by
        intro before
        rw [map_word_wordsFrom]
        simpa using ih (List.forall_mem_nil _)
      rw [hasWord_append_cons hother]
      by_cases hnone : run = []
      · simp only [wordsFrom, hother, hnone, List.isEmpty_nil, if_true, Bool.false_eq_true,
          if_false, hrest, List.reverse_nil, not_hasWord_nil, false_or]
      · simp only [wordsFrom, hother, List.isEmpty_iff, hnone, Bool.false_eq_true, if_false,
          List.map_cons, List.mem_cons, hrest, hasWord_iff_of_isWord (hisWord hnone hrun)]

/-- The words of a text are its maximal runs of word characters. -/
theorem mem_wordsOf_iff {text word : Text} : word ∈ wordsOf text ↔ HasWord text word := by
  simpa [wordsOf, wordsAt] using mem_wordsFrom_iff (List.forall_mem_nil _) text

/-! ## Other characters -/

/-- No word character lies between the ends of some range. -/
def OtherRanges (ranges : List (Nat × Nat)) : Prop :=
  ∀ r ∈ wordRanges, ∀ b ∈ ranges, r.2 < b.1 ∨ b.2 < r.1

theorem OtherRanges.not_inRanges {ranges : List (Nat × Nat)} (h : OtherRanges ranges)
    {c : CodePoint} (hc : isWordChar c = true) : inRanges ranges c.code = false := by
  by_contra hin
  rw [Bool.not_eq_false] at hin
  obtain ⟨r, hr, hlow, hhigh⟩ := exists_of_inRanges hc
  obtain ⟨b, hb, hlow', hhigh'⟩ := exists_of_inRanges hin
  have hmiss := h r hr b hb
  omega

theorem otherRanges_blank : OtherRanges blankRanges := by
  unfold OtherRanges
  decide +kernel

theorem IsWord.solid {word : Text} (h : IsWord word) : Solid word :=
  ⟨h.1, fun c hc => otherRanges_blank.not_inRanges (h.2 c hc)⟩

/-! ## Words in lower case -/

theorem lowerAt_of_ne {c : CodePoint} (hdotted : c ≠ '\u0130') (hsigma : c ≠ '\u03a3')
    (before after : Text) : lowerAt before c after = [lowerSimple c] := by
  rw [lowerAt, if_neg hdotted, if_neg hsigma]

/-- A word character that is not the dotted capital I has one character in lower case, which is that
of some word character wherever this stands. -/
theorem exists_lowerAt_eq {c : CodePoint} (hc : isWordChar c = true) (hdotted : c ≠ '\u0130')
    (before after : Text) :
    ∃ d e, isWordChar d = true ∧ lowerAt before c after = [e] ∧
      ∀ before' after', lowerAt before' d after' = [e] := by
  have hsmall : ∀ d ∈ (['\u03c2', '\u03c3'] : List CodePoint), isWordChar d = true ∧
      d ≠ '\u0130' ∧ d ≠ '\u03a3' ∧ lowerSimple d = d := by decide +kernel
  by_cases hsigma : c = '\u03a3'
  · -- a sigma is replaced by what it becomes, which stays as it is
    obtain ⟨d, hd, heq⟩ : ∃ d ∈ (['\u03c2', '\u03c3'] : List CodePoint),
        lowerAt before c after = [d] := by
      rw [lowerAt, if_neg hdotted, if_pos hsigma]
      split_ifs <;> simp
    obtain ⟨hword, hne, hne', hsame⟩ := hsmall d hd
    refine ⟨d, d, hword, heq, ?_⟩
    intro before' after'
    rw [lowerAt_of_ne hne hne', hsame]
  · exact ⟨c, lowerSimple c, hc, lowerAt_of_ne hdotted hsigma before after,
      lowerAt_of_ne hdotted hsigma⟩

theorem exists_lowerFrom_eq_of_prefix {word p before : Text}
    (hword : ∀ c ∈ word, isWordChar c = true) (hp : p <+: lowerFrom before word) :
    ∃ v, (∀ c ∈ v, isWordChar c = true) ∧ ∀ before', lowerFrom before' v = p := by
  induction word generalizing p before with
  | nil =>
    rw [lowerFrom, List.prefix_nil] at hp
    exact ⟨[], by simp, fun _ => hp.symm⟩
  | cons c rest ih =>
    rw [List.forall_mem_cons] at hword
    rw [lowerFrom] at hp
    by_cases hdotted : c = '\u0130'
    · subst hdotted
      have htwo : lowerAt before '\u0130' rest = ['i', '\u0307'] := rfl
      rw [htwo] at hp
      rcases p with _ | ⟨x, _ | ⟨y, p⟩⟩
      · exact ⟨[], by simp, fun _ => rfl⟩
      · -- the dot is cut off, which leaves the lower case of another letter
        have hx : x = 'i' := by simpa using hp
        have hsmall : isWordChar 'i' = true ∧ lowerSimple 'i' = 'i' := by decide +kernel
        refine ⟨['i'], by simpa using hsmall.1, ?_⟩
        intro before'
        rw [lowerFrom, lowerFrom, lowerAt_of_ne (by decide) (by decide), hsmall.2, hx]
        rfl
      · obtain ⟨rfl, hdot⟩ := List.cons_prefix_cons.mp hp
        obtain ⟨rfl, hrest⟩ := List.cons_prefix_cons.mp hdot
        obtain ⟨v, hv, hlower⟩ := ih hword.2 hrest
        refine ⟨CodePoint.char '\u0130' :: v, List.forall_mem_cons.mpr ⟨hword.1, hv⟩, ?_⟩
        intro before'
        rw [lowerFrom, hlower]
        rfl
    · obtain ⟨d, e, hd, hone, hsame⟩ := exists_lowerAt_eq hword.1 hdotted before rest
      rw [hone] at hp
      cases p with
      | nil => exact ⟨[], by simp, fun _ => rfl⟩
      | cons x p =>
        obtain ⟨rfl, hrest⟩ := List.cons_prefix_cons.mp hp
        obtain ⟨v, hv, hlower⟩ := ih hword.2 hrest
        refine ⟨d :: v, List.forall_mem_cons.mpr ⟨hd, hv⟩, ?_⟩
        intro before'
        rw [lowerFrom, hlower, hsame]
        rfl

/-- What begins a word in lower case is a text of word characters in lower case. -/
theorem exists_lower_eq_of_prefix {word p : Text} (hword : IsWord word) (hp : p <+: lower word) :
    ∃ v, (∀ c ∈ v, isWordChar c = true) ∧ lower v = p := by
  obtain ⟨v, hv, hlower⟩ := exists_lowerFrom_eq_of_prefix hword.2 hp
  exact ⟨v, hv, hlower []⟩

/-! ## Lengths in lower case -/

theorem length_lowerFrom (before text : Text) :
    (lowerFrom before text).length = text.length + text.count (.char '\u0130') := by
  induction text generalizing before with
  | nil => rfl
  | cons c rest ih =>
    have hhere : (lowerAt before c rest).length =
        1 + if c == .char '\u0130' then 1 else 0 := by
      unfold lowerAt
      split_ifs <;> simp_all
    rw [lowerFrom, List.length_append, ih, hhere, List.length_cons, List.count_cons]
    omega

/-- To leave characters out makes the lower-cased text shorter. -/
theorem length_lower_filter_lt {text : Text} {p : CodePoint → Bool}
    (h : ∃ c ∈ text, p c = false) : (lower (text.filter p)).length < (lower text).length := by
  have hshorter : (text.filter p).length < text.length := by
    rw [List.length_filter_lt_length_iff_exists]
    simpa using h
  have hcount : (text.filter p).count (.char '\u0130') ≤ text.count (.char '\u0130') :=
    List.filter_sublist.count_le _
  rw [lower, lower, length_lowerFrom, length_lowerFrom]
  omega

end EntitySearch.Text
