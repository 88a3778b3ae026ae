import EntitySearch.Proofs.Index.PrefixMatching
import EntitySearch.Proofs.Text.Parts
import Mathlib
/-!
# Full-text queries are well formed

A full-text query has a syntax of its own, with operators, groups, weights and quotes. Whatever the
text of a lexical query is, nothing of this gets into a lexeme: all of it lies between the ranges of
word characters (`otherRanges_punctuation`), and lower-casing does not lead there
(`avoided_punctuationRanges`). So a full-text query is a list of alternatives that can be read back
(`Sql.tsquery_alternatives`).
-/

namespace EntitySearch

open Text (Avoided IsWord OtherRanges Solid isWordChar)

namespace Sql

/-- The characters that mean something in a full-text query; the last three are the quotes and the
backslash. -/
def operators : Text := ['&', '|', '!', '(', ')', ':', '*', '<', '>', '\x27', '\x22', '\x5C']

/-- The ASCII punctuation, except the underscore. -/
def punctuationRanges : List (Nat × Nat) :=
  [(0x21, 0x2F), (0x3A, 0x40), (0x5B, 0x5E), (0x60, 0x60), (0x7B, 0x7E)]

theorem avoided_punctuationRanges : Avoided punctuationRanges where
  positive := by decide
  runs := by decide +kernel
  others := by decide

theorem otherRanges_punctuation : OtherRanges punctuationRanges := by
  unfold OtherRanges
  decide +kernel

theorem inRanges_of_mem_operators :
    ∀ c ∈ operators, Text.inRanges punctuationRanges c.code = true := by decide

/-- Of a prefix nothing is left that means something in a full-text query. -/
theorem not_mem_operators_of_mem_lexeme {part : Text} {c : CodePoint} (h : c ∈ lexeme part) :
    c ∉ operators := by
  have hwords : ∀ d ∈ part.filter isWordChar, Text.inRanges punctuationRanges d.code = false := by
    intro d hd
    exact otherRanges_punctuation.not_inRanges (List.mem_filter.mp hd).2
  have hout := avoided_punctuationRanges.lowerFrom hwords c h
  intro hoperator
  rw [inRanges_of_mem_operators c hoperator] at hout
  cases hout

/-- Every prefix with a word character has a lexeme, and no other one. -/
theorem lexemes_eq (compiled : Text) : lexemes compiled =
    ((Lexical.split compiled).filter fun part => part.any isWordChar).map lexeme := by
  have hworded : ∀ part : Text, decide (lexeme part ≠ []) = part.any isWordChar := by
    intro part
    rw [Bool.eq_iff_iff]
    simp [lexeme]
  rw [lexemes, List.filter_map]
  congr 2
  funext part
  exact hworded part

/-- Cutting a full-text query at its bars gives back the lexemes with their marks. -/
theorem parts_tsquery {compiled : Text} (hne : lexemes compiled ≠ []) :
    Text.parts " | " (tsquery compiled) = (lexemes compiled).map (· ++ mark) := by
  have hblank : ∀ item ∈ (lexemes compiled).map (· ++ mark), CodePoint.char ' ' ∉ item := by
    intro item hitem hmem
    obtain ⟨l, hl, rfl⟩ := List.mem_map.mp hitem
    have hsolid := solid_append_mark (solid_of_mem_lexemes hl)
    cases hsolid.2 _ hmem
  exact Text.parts_join (by simpa using hne) hblank

theorem tsquery_eq_nil_iff {compiled : Text} : tsquery compiled = [] ↔ lexemes compiled = [] := by
  constructor
  · intro hnothing
    by_contra hne
    have hparts := parts_tsquery hne
    -- nothing is cut into one part, which is empty, and no marked lexeme is
    rw [hnothing] at hparts
    have hmem : [] ∈ (lexemes compiled).map (· ++ mark) := by
      rw [← hparts]
      exact List.mem_singleton_self _
    obtain ⟨l, -, hl⟩ := List.mem_map.mp hmem
    exact List.append_ne_nil_of_right_ne_nil l (List.cons_ne_nil _ _) hl
  · intro hnone
    rw [tsquery, hnone]
    rfl

/-- The full-text query for any lexical query is the alternatives, in order, that its prefixes with
a word character in them become, each marked as a prefix; it is empty if there is no such prefix.
No alternative has a blank or an operator in front of its mark, and none is empty there, so cutting
the query at its bars gives them back. -/
theorem tsquery_alternatives (compiled : Text) :
    let worded := (Lexical.split compiled).filter fun part => part.any isWordChar
    let alternatives := worded.map fun part => lexeme part ++ mark
    tsquery compiled = Text.join " | " alternatives ∧
    (tsquery compiled = [] ↔ worded = []) ∧
    (∀ part ∈ worded, Solid (lexeme part) ∧ ∀ c ∈ lexeme part, c ∉ operators) ∧
    (worded ≠ [] → Text.parts " | " (tsquery compiled) = alternatives) := by
  intro worded alternatives
  have hlexemes : lexemes compiled = worded.map lexeme := lexemes_eq compiled
  have hmarked : (lexemes compiled).map (· ++ mark) = alternatives := by
    rw [hlexemes, List.map_map]
    rfl
  refine ⟨?_, ?_, ?_, ?_⟩
  · rw [← hmarked]
    rfl
  · rw [tsquery_eq_nil_iff, hlexemes, List.map_eq_nil_iff]
  · intro part hpart
    have hmem : lexeme part ∈ lexemes compiled := by
      rw [hlexemes]
      exact List.mem_map_of_mem hpart
    exact ⟨solid_of_mem_lexemes hmem, fun c => not_mem_operators_of_mem_lexeme⟩
  · intro hne
    rw [← hmarked]
    apply parts_tsquery
    rw [hlexemes]
    simpa using hne

/-- Operators, weights and quotes that a client writes are gone, and one that is all of a prefix
leaves nothing. -/
example : tsquery "a:*|!b* OR 'C':D* OR &|* OR e<->*" = "ab:* | cd:* | e:*" := by decide +kernel

end Sql

end EntitySearch
