import EntitySearch.Entity.Descriptor
import EntitySearch.Proofs.Query.Parser
import EntitySearch.Proofs.Text.Parts
import EntitySearch.Query.Lexical
import Mathlib
/-!
# Lexical queries and their terms

Neither the separator nor the star is escaped in a lexical query, yet its terms are found again: a
separator begins and ends with a blank, no term holds one, and so a written query is cut exactly
between its terms (`splitParts_build`). The terms of a parsed query are of this kind, in lower case
as well (`solid_of_mem_queryTerms`).
-/

namespace EntitySearch

open Text (Solid isBlank)

namespace Lexical

/-! ## Cutting at separators -/

theorem splitParts_eq_parts (text : Text) : splitParts text = Text.parts separator text := by
  fun_induction splitParts text with
  | case1 => rfl
  | case2 rest ih =>
    rw [ih]
    exact (Text.parts_separator_append rest).symm
  | case3 c rest _ hnone ih => exact absurd (ih ▸ hnone) (Text.parts_ne_nil rest)
  | case4 c rest hother part parts hsome ih =>
    -- the separator does not begin here
    have hhere : ¬ separator <+: c :: rest := by
      rintro ⟨behind, htext⟩
      rw [separator, List.cons_append, List.cons.injEq] at htext
      exact hother behind htext.1.symm htext.2.symm
    rw [Text.parts_cons_of_not_prefix hhere, ← ih, hsome]
    rfl

/-! ## Terms and written queries -/

theorem isBlank_of_mem_starred {term : Text} (h : Solid term) :
    ∀ c ∈ term ++ ("*" : Text), isBlank c = false := by
  intro c hc
  rcases List.mem_append.mp hc with hmem | hmem
  · exact h.2 c hmem
  · rw [List.mem_singleton.mp hmem]
    rfl

/-- A written query is cut between its terms. -/
theorem splitParts_build {terms : List Text} (hne : terms ≠ []) (h : ∀ term ∈ terms, Solid term) :
    splitParts (build terms) = terms.map (· ++ ("*" : Text)) := by
  rw [splitParts_eq_parts, build, separator]
  apply Text.parts_join
  · simpa using hne
  · -- no term holds the blank with which a separator begins
    intro item hitem hblank
    obtain ⟨term, hterm, rfl⟩ := List.mem_map.mp hitem
    have hnone := isBlank_of_mem_starred (h term hterm) _ hblank
    cases hnone

/-- A part that holds a term gives it back, whatever stars are in it. -/
theorem dropStar_strip {term : Text} (h : Solid term) :
    dropStar (Text.strip (term ++ ("*" : Text))) = term := by
  rw [Text.strip_eq_self (isBlank_of_mem_starred h)]
  have hlast : (term ++ ("*" : Text)).getLast? = some (.char '*') := by
    simp [Text.ofString, Text.ofChars]
  have hinit : (term ++ ("*" : Text)).dropLast = term := List.dropLast_concat
  rw [dropStar, if_pos hlast, hinit]

theorem split_build {terms : List Text} (h : ∀ term ∈ terms, Solid term) :
    split (build terms) = terms := by
  by_cases hne : terms = []
  · subst hne
    rfl
  · have hback : ∀ term ∈ terms, dropStar (Text.strip (term ++ ("*" : Text))) = term :=
      fun term hterm => dropStar_strip (h term hterm)
    have hkeep : ∀ term ∈ terms, term ≠ [] := fun term hterm => (h term hterm).1
    calc split (build terms)
        = (terms.map fun term => dropStar (Text.strip (term ++ ("*" : Text)))).filter (· ≠ []) := by
          rw [split, splitParts_build hne h, List.map_map]
          rfl
      _ = terms.filter (· ≠ []) := by rw [List.map_congr_left hback, List.map_id']
      _ = terms := List.filter_eq_self.mpr fun term hterm => decide_eq_true (hkeep term hterm)

/-- No lexical query has an empty prefix. -/
theorem ne_nil_of_mem_split {compiled part : Text} (h : part ∈ split compiled) : part ≠ [] :=
  of_decide_eq_true (List.mem_filter.mp h).2

end Lexical

namespace Query

/-! ## Terms of a parsed query -/

theorem solid_of_mem_terms {raw term : Text} (h : term ∈ (parse raw).terms) : Solid term := by
  rw [(reads_parse raw).terms] at h
  exact Text.solid_of_mem_splitBlank (List.mem_of_mem_filter h)

theorem isBlank_of_mem_values {k : TokenClass} {raw value : Text}
    (h : value ∈ k.values (tokenize raw)) : ∀ c ∈ value, isBlank c = false := by
  obtain ⟨token, htoken, rfl⟩ := List.mem_map.mp h
  intro c hc
  exact (Text.solid_of_mem_splitBlank (List.mem_of_mem_filter htoken)).2 c (List.mem_of_mem_drop hc)

theorem solid_of_mem_hashtags {raw tag : Text} (h : tag ∈ (parse raw).hashtags) : Solid tag := by
  rw [Sets.hashtags_eq ((reads_parse raw).classes .hashtag)] at h
  obtain ⟨value, hvalue, rfl⟩ := List.mem_map.mp h
  obtain ⟨hmem, hne⟩ := List.mem_filter.mp hvalue
  exact Solid.lower ⟨of_decide_eq_true hne, isBlank_of_mem_values hmem⟩

theorem solid_of_mem_queryTerms {raw term : Text} {d : Descriptor}
    (h : term ∈ d.queryTerms (parse raw)) : Solid term := by
  unfold Descriptor.queryTerms at h
  split at h
  · exact solid_of_mem_terms h
  · rcases List.mem_append.mp h with hterm | htag
    · obtain ⟨free, hfree, rfl⟩ := List.mem_map.mp hterm
      exact (solid_of_mem_terms hfree).lower
    · exact solid_of_mem_hashtags htag

end Query

/-- What a type is searched for is found again in the lexical query that is written for it, and so
are any solid terms, in the same order and as often. Different solid terms are never written as the
same query. -/
theorem Lexical.split_build_queryTerms :
    (∀ (raw : Text) (d : Descriptor),
      Lexical.split (Lexical.build (d.queryTerms (Query.parse raw))) =
        d.queryTerms (Query.parse raw)) ∧
    (∀ terms : List Text, (∀ term ∈ terms, Solid term) →
      Lexical.split (Lexical.build terms) = terms) ∧
    Set.InjOn Lexical.build {terms | ∀ term ∈ terms, Solid term} := by
  refine ⟨fun raw d => split_build fun term => Query.solid_of_mem_queryTerms,
    fun terms => split_build, ?_⟩
  intro terms hterms others hothers hsame
  rw [← split_build hterms, ← split_build hothers, hsame]

/-- Terms that look like separators and stars, or end in one. -/
theorem Lexical.split_build_lookalikes :
    (∀ term ∈ (["OR", "*", "bit*", "OR*", "OR"] : List Text), Solid term) ∧
    Lexical.split (Lexical.build ["OR", "*", "bit*", "OR*", "OR"]) =
      ["OR", "*", "bit*", "OR*", "OR"] := by
  have hsolid : ∀ term ∈ (["OR", "*", "bit*", "OR*", "OR"] : List Text), Solid term := by
    unfold Text.Solid
    decide
  exact ⟨hsolid, split_build_queryTerms.2.1 _ hsolid⟩

end EntitySearch
