import EntitySearch.Index.Sql
import EntitySearch.Proofs.Index.Holdings
import EntitySearch.Proofs.Query.Lexical
import EntitySearch.Proofs.Text.Word
/-!
# Documents that match a lexical query

A search in memory without filters finds the documents with a word that begins with a prefix of the
query in lower case (`MemoryIndex.searchMatches_prefixes`). The full-text query for the same lexical query
lists lexemes (`Sql.listed_tsquery`), from which the characters that belong to no word are gone. The
two ask for the same documents if and only if lexemes and prefixes are aligned
(`MemoryIndex.search_matches_lexemes_iff`); they are where prefixes are made of word characters
(`MemoryIndex.aligned_of_words`).
-/

namespace EntitySearch

open Text (HasWord IsWord Solid isBlank isWordChar)

/-! ## Lexemes of a full-text query -/

namespace Sql

/-- The mark of a prefix in a full-text query. -/
def mark : Text := ":*"

/-- The lexemes that a full-text query lists as prefixes. The bars between them carry no mark. -/
def listed (expression : Text) : List Text :=
  (Text.splitBlank expression).filterMap fun token => token.dropSuffix? mark

theorem mem_lexemes_iff {compiled l : Text} :
    l ∈ lexemes compiled ↔
      ∃ part ∈ Lexical.split compiled, IsWord (part.filter isWordChar) ∧ lexeme part = l := by
  have hword : ∀ part : Text, IsWord (part.filter isWordChar) ↔ lexeme part ≠ [] := by
    intro part
    simp [IsWord, lexeme]
  simp only [lexemes, List.mem_filter, List.mem_map, decide_eq_true_eq, hword]
  constructor
  · rintro ⟨⟨part, hpart, rfl⟩, hne⟩
    exact ⟨part, hpart, hne, rfl⟩
  · rintro ⟨part, hpart, hne, rfl⟩
    exact ⟨⟨part, hpart, rfl⟩, hne⟩

theorem solid_of_mem_lexemes {compiled l : Text} (h : l ∈ lexemes compiled) : Solid l := by
  obtain ⟨part, -, hword, rfl⟩ := mem_lexemes_iff.mp h
  exact hword.solid.lower

theorem solid_append_mark {l : Text} (h : Solid l) : Solid (l ++ mark) := by
  refine ⟨by simp [h.1], ?_⟩
  intro c hc
  rcases List.mem_append.mp hc with hl | hmark
  · exact h.2 c hl
  · have hnone : ∀ c ∈ mark, isBlank c = false := by decide
    exact hnone c hmark

/-- A token in front of a bar is cut off, and so is the bar. -/
theorem splitBlank_bar {token : Text} (h : Solid token) (rest : Text) :
    Text.splitBlank (token ++ (" | " ++ rest)) = token :: "|" :: Text.splitBlank rest := by
  have hbar : Solid ("|" : Text) := by
    unfold Text.Solid
    decide
  have hgap : ∀ c ∈ (" " : Text), isBlank c = true := by decide
  have hhead : ∀ behind : Text, ∀ c ∈ (" " ++ behind).head?, isBlank c = true := by
    intro behind c hc
    cases hc
    rfl
  have hrest : Text.Runs (" " ++ "|" ++ (" " ++ rest)) ("|" :: Text.splitBlank rest) :=
    .run " " hgap hbar (hhead rest) ((Text.runs_iff.mpr rfl).cons_blank rfl)
  exact (Text.Runs.run [] (by simp) h (hhead ("|" ++ (" " ++ rest))) hrest).eq_splitBlank

theorem listed_join {lexemes : List Text} (h : ∀ l ∈ lexemes, Solid l) :
    listed (Text.join " | " (lexemes.map (· ++ mark))) = lexemes := by
  have hmarked : ∀ l : Text, (l ++ mark).dropSuffix? mark = some l := by
    intro l
    rw [List.dropSuffix?_eq_some_iff]
    exact ⟨mark, rfl, beq_self_eq_true mark⟩
  induction lexemes with
  | nil => rfl
  | cons l rest ih =>
    rw [List.forall_mem_cons] at h
    have hsolid := solid_append_mark h.1
    cases rest with
    | nil => simp [listed, Text.join, List.intercalate, Text.splitBlank_of_solid hsolid, hmarked]
    | cons next rest =>
      have hjoin : Text.join " | " ((l :: next :: rest).map (· ++ mark)) =
          (l ++ mark) ++ (" | " ++ Text.join " | " ((next :: rest).map (· ++ mark))) := by
        simp [Text.join, List.intercalate]
      have hbar : ("|" : Text).dropSuffix? mark = none := by decide
      rw [hjoin, listed, splitBlank_bar hsolid]
      simp only [List.filterMap_cons, hmarked, hbar]
      exact congrArg (l :: ·) (ih h.2)

/-- A full-text query lists the lexemes of the lexical query. -/
theorem listed_tsquery (compiled : Text) : listed (tsquery compiled) = lexemes compiled :=
  listed_join fun _ => solid_of_mem_lexemes

end Sql

/-! ## Matching documents -/

namespace Document

/-- A word of a searchable field begins, in lower case, with one of some prefixes. -/
def BeginsWith (doc : Document) (d : Descriptor) (prefixes : List Text) : Prop :=
  ∃ name ∈ d.fields, ∃ value, doc.fields.get? name = some value ∧
    ∃ word, HasWord value word ∧ ∃ p ∈ prefixes, p <+: Text.lower word

/-- A document of a single word. -/
def ofWord (name word : Text) : Document := { entityId := word, fields := [(name, word)] }

theorem beginsWith_ofWord {d : Descriptor} {name word : Text} {prefixes : List Text}
    (hname : name ∈ d.fields) (hword : IsWord word) :
    (ofWord name word).BeginsWith d prefixes ↔ ∃ p ∈ prefixes, p <+: Text.lower word := by
  constructor
  · rintro ⟨other, -, value, hvalue, found, hfound, hbegins⟩
    have honly : value = word := by
      simp only [ofWord, Ledger.get?] at hvalue
      split at hvalue
      · exact (Option.some.inj hvalue).symm
      · cases hvalue
    subst honly
    rw [Text.hasWord_iff_of_isWord hword] at hfound
    rw [← hfound]
    exact hbegins
  · intro hbegins
    have hvalue : (ofWord name word).fields.get? name = some word := if_pos rfl
    exact ⟨name, hname, word, hvalue, word, (Text.hasWord_iff_of_isWord hword).mpr rfl, hbegins⟩

end Document

namespace MemoryIndex

section Search

variable {α : Type} [Scalar α] {m : MemoryIndex} {t : EntityType} {d : Descriptor}

theorem matchedPrefixes_ne_nil_iff {prefixes : List Text} {doc : Document} {name : Text} :
    matchedPrefixes prefixes doc name ≠ [] ↔ ∃ value, doc.fields.get? name = some value ∧
      ∃ word, HasWord value word ∧ ∃ p ∈ prefixes, p <+: Text.lower word := by
  have hwords : matchedPrefixes prefixes doc name ≠ [] ↔
      ∃ p ∈ prefixes, ∃ word ∈ Text.wordsOf ((doc.fields.get? name).getD []),
        p <+: Text.lower word := by
    simp [matchedPrefixes, fieldWords]
  rw [hwords]
  cases doc.fields.get? name with
  | none => simp [Text.mem_wordsOf_iff, Text.not_hasWord_nil]
  | some value =>
    simp only [Option.getD_some, Text.mem_wordsOf_iff, Option.some.injEq, exists_eq_left']
    constructor
    · rintro ⟨p, hp, word, hword, hbegins⟩
      exact ⟨word, hword, p, hp, hbegins⟩
    · rintro ⟨word, hword, p, hp, hbegins⟩
      exact ⟨p, hp, word, hword, hbegins⟩

/-- A document has a hit if a word of it begins with a prefix. -/
theorem isSome_hit?_iff {prefixes : List Text} {doc : Document} :
    (hit? (α := α) d prefixes doc).isSome ↔ doc.BeginsWith d prefixes := by
  have hmatched : ((d.fields.map fun name => (name, matchedPrefixes prefixes doc name)).filter
      fun e => !e.2.isEmpty) ≠ [] ↔ doc.BeginsWith d prefixes := by
    simp [Document.BeginsWith, ← matchedPrefixes_ne_nil_iff]
  rw [← hmatched]
  unfold hit?
  simp only
  split
  · next hnone => simp [hnone]
  · next hsome => simp [hsome]

theorem passesIn_noFilters (m : MemoryIndex) (d : Descriptor) (doc : Document) :
    m.passesIn d {} doc = .ok true := by
  unfold passesIn passes
  split <;> rfl

/-- A search without filters has all hits, if the limit leaves room for every document. -/
theorem search_noFilters (hd : Descriptor.of? t = some d) (compiled : Text) {limit : Int}
    (hlimit : ((m.documentsOf t).length : Int) ≤ limit) :
    ∃ hits : List (Hit α), m.search d compiled {} limit = .ok hits ∧
      hits.Perm ((m.documentsOf t).filterMap (hit? d (searchPrefixes compiled))) := by
  unfold search
  rw [Descriptor.typeOfIndex?_of? hd]
  simp only
  split
  · next hnothing =>
    refine ⟨[], rfl, ?_⟩
    have hnone : (m.documentsOf t).filterMap
        (hit? (α := α) d (searchPrefixes compiled)) = [] := by
      rw [List.filterMap_eq_nil_iff]
      intro doc hdoc
      rw [Bool.or_eq_true, List.isEmpty_iff, decide_eq_true_eq] at hnothing
      rcases hnothing with hempty | hlow
      · rw [← Option.not_isSome_iff_eq_none, isSome_hit?_iff, hempty]
        rintro ⟨_, _, _, _, _, _, p, hp, _⟩
        cases hp
      · have hpos := List.length_pos_of_mem hdoc
        omega
    rw [hnone]
  · rw [filterM_eq_self fun doc _ => passesIn_noFilters m d doc]
    refine ⟨_, rfl, ?_⟩
    -- there are no more hits than documents, so nothing is cut off
    have hroom : ((m.documentsOf t).filterMap
        (hit? (α := α) d (searchPrefixes compiled))).length ≤ limit.toNat := by
      have hhits := List.length_filterMap_le (hit? (α := α) d (searchPrefixes compiled))
        (m.documentsOf t)
      omega
    have hsorted := sortDescending_perm Scalar.pairLess Scalar.isPairOrderly
      (fun h : Hit α => (h.score, h.createdAt))
      ((m.documentsOf t).filterMap (hit? d (searchPrefixes compiled)))
    rw [cut, List.take_of_length_le (hsorted.length_eq ▸ hroom)]
    exact hsorted

/-- A hit stands for a document of the type with a word that begins with a prefix. -/
theorem exists_hit_iff (hm : m.Keyed) {prefixes : List Text} {hits : List (Hit α)}
    (hhits : hits.Perm ((m.documentsOf t).filterMap (hit? d prefixes))) {doc : Document}
    (hdoc : doc ∈ m.documentsOf t) :
    (∃ hit ∈ hits, hit.entityId = doc.entityId) ↔ doc.BeginsWith d prefixes := by
  constructor
  · rintro ⟨hit, hhit, hid⟩
    obtain ⟨found, hfound, heq⟩ := List.mem_filterMap.mp (hhits.mem_iff.mp hhit)
    rw [entityId_hit? heq] at hid
    -- no two documents of a type have the same id
    have hsame : some found = some doc := by
      rw [← hm.get?_of_mem hfound, ← hm.get?_of_mem hdoc, hid]
    rw [← Option.some.inj hsame, ← isSome_hit?_iff (α := α), heq]
    rfl
  · intro hbegins
    obtain ⟨hit, hhit⟩ := Option.isSome_iff_exists.mp ((isSome_hit?_iff (α := α)).mpr hbegins)
    exact ⟨hit, hhits.mem_iff.mpr (List.mem_filterMap.mpr ⟨doc, hdoc, hhit⟩), entityId_hit? hhit⟩

end Search

/-! ## Prefixes and lexemes -/

section Alignment

variable {t : EntityType} {d : Descriptor} {compiled : Text}

/-- After any history the search for a lexical query, without filters and with a limit that leaves
room for every document, finds the documents with a word that begins with one of some prefixes. -/
def SearchMatches (α : Type) [Scalar α] (t : EntityType) (d : Descriptor) (compiled : Text)
    (prefixes : List Text) : Prop :=
  ∀ (changes : List Change) (limit : Int),
    (((after changes).documentsOf t).length : Int) ≤ limit →
    ∃ hits : List (Hit α), (after changes).search d compiled {} limit = .ok hits ∧
      ∀ doc ∈ (after changes).documentsOf t,
        (∃ hit ∈ hits, hit.entityId = doc.entityId) ↔ doc.BeginsWith d prefixes

/-- Every lexeme continues a prefix, and every prefix with which a word begins continues a lexeme. -/
structure Aligned (compiled : Text) : Prop where
  lexeme : ∀ l ∈ Sql.lexemes compiled, ∃ p ∈ searchPrefixes compiled, p <+: l
  begins : ∀ p ∈ searchPrefixes compiled, (∃ word, IsWord word ∧ p <+: Text.lower word) →
    ∃ l ∈ Sql.lexemes compiled, l <+: p

theorem searchMatches_prefixes {α : Type} [Scalar α] (hd : Descriptor.of? t = some d)
    (compiled : Text) : SearchMatches α t d compiled (searchPrefixes compiled) := by
  intro changes limit hlimit
  obtain ⟨hits, hsearch, hhits⟩ := search_noFilters (α := α) hd compiled hlimit
  exact ⟨hits, hsearch, fun doc => exists_hit_iff (after_keyed changes) hhits⟩

/-- The same documents begin with the prefixes of a query as with others, where the search matches
as the others say. -/
theorem searchMatches_iff {α : Type} [Scalar α] (hd : Descriptor.of? t = some d)
    {prefixes : List Text} :
    SearchMatches α t d compiled prefixes ↔
      ∀ changes, ∀ doc ∈ (after changes).documentsOf t,
        (doc.BeginsWith d (searchPrefixes compiled) ↔ doc.BeginsWith d prefixes) := by
  constructor
  · intro h changes doc hdoc
    obtain ⟨hits, hsearch, hhits⟩ := h changes _ le_rfl
    obtain ⟨hits', hsearch', hhits'⟩ := searchMatches_prefixes (α := α) hd compiled changes _ le_rfl
    rw [hsearch, Except.ok.injEq] at hsearch'
    subst hsearch'
    rw [← hhits doc hdoc, hhits' doc hdoc]
  · intro h changes limit hlimit
    obtain ⟨hits, hsearch, hhits⟩ := searchMatches_prefixes (α := α) hd compiled changes limit hlimit
    refine ⟨hits, hsearch, ?_⟩
    intro doc hdoc
    rw [hhits doc hdoc, h changes doc hdoc]

/-- The same documents of indexes begin with prefixes as with others if and only if the same words
do. -/
theorem beginsWith_iff_iff (hd : Descriptor.of? t = some d) {prefixes others : List Text} :
    (∀ changes, ∀ doc ∈ (after changes).documentsOf t,
      (doc.BeginsWith d prefixes ↔ doc.BeginsWith d others)) ↔
    ∀ word, IsWord word →
      ((∃ p ∈ prefixes, p <+: Text.lower word) ↔ ∃ l ∈ others, l <+: Text.lower word) := by
  constructor
  · intro h word hword
    -- an index may hold a document of this word alone
    obtain ⟨name, hname⟩ : ∃ name, name ∈ d.fields := by
      apply List.exists_mem_of_ne_nil
      cases t <;> cases hd <;> simp
    have haccepted : (Change.add t (.ofWord name word) {}).Accepted := by
      refine ⟨d, hd, ?_, ?_⟩
      · simpa [Document.ofWord, Ledger.keys] using hname
      · intro kind hkind
        cases hkind
    have hdoc : .ofWord name word ∈ (after [.add t (.ofWord name word) {}]).documentsOf t :=
      kept_mem_documentsOf {} haccepted
    rw [← Document.beginsWith_ofWord hname hword, ← Document.beginsWith_ofWord hname hword]
    exact h _ _ hdoc
  · intro h changes doc _
    unfold Document.BeginsWith
    refine exists_congr fun name => and_congr_right fun _ => exists_congr fun value =>
      and_congr_right fun _ => exists_congr fun word => and_congr_right fun hword => ?_
    exact h word hword.1

theorem ne_nil_of_mem_searchPrefixes {p : Text} (h : p ∈ searchPrefixes compiled) : p ≠ [] := by
  obtain ⟨part, hpart, rfl⟩ := List.mem_map.mp h
  simpa using Lexical.ne_nil_of_mem_split hpart

/-- The same words begin with prefixes as with lexemes if and only if the two are aligned. -/
theorem aligned_iff : Aligned compiled ↔ ∀ word, IsWord word →
    ((∃ p ∈ searchPrefixes compiled, p <+: Text.lower word) ↔
      ∃ l ∈ Sql.lexemes compiled, l <+: Text.lower word) := by
  constructor
  · intro h word hword
    constructor
    · rintro ⟨p, hp, hbegins⟩
      obtain ⟨l, hl, hlp⟩ := h.begins p hp ⟨word, hword, hbegins⟩
      exact ⟨l, hl, hlp.trans hbegins⟩
    · rintro ⟨l, hl, hbegins⟩
      obtain ⟨p, hp, hpl⟩ := h.lexeme l hl
      exact ⟨p, hp, hpl.trans hbegins⟩
  · intro h
    constructor
    · -- a lexeme is itself a word in lower case
      intro l hl
      obtain ⟨part, -, hword, rfl⟩ := Sql.mem_lexemes_iff.mp hl
      exact (h _ hword).mpr ⟨_, hl, List.prefix_rfl⟩
    · -- a prefix of a word in lower case is one, too
      rintro p hp ⟨word, hword, hbegins⟩
      obtain ⟨v, hv, rfl⟩ := Text.exists_lower_eq_of_prefix hword hbegins
      have hne : v ≠ [] := by simpa using ne_nil_of_mem_searchPrefixes hp
      exact (h v ⟨hne, hv⟩).mp ⟨_, hp, List.prefix_rfl⟩

/-- Prefixes of word characters are their own lexemes. -/
theorem aligned_of_words
    (h : ∀ part ∈ Lexical.split compiled, ∀ c ∈ part, isWordChar c = true) : Aligned compiled := by
  have hsame : Sql.lexemes compiled = searchPrefixes compiled := by
    have hlexeme : ∀ part ∈ Lexical.split compiled, Sql.lexeme part = Text.lower part := by
      intro part hpart
      rw [Sql.lexeme, List.filter_eq_self.mpr (h part hpart)]
    rw [Sql.lexemes, List.map_congr_left hlexeme]
    exact List.filter_eq_self.mpr fun p hp => decide_eq_true (ne_nil_of_mem_searchPrefixes hp)
  constructor
  · intro l hl
    exact ⟨l, hsame ▸ hl, List.prefix_rfl⟩
  · intro p hp _
    exact ⟨p, hsame.symm ▸ hp, List.prefix_rfl⟩

/-- A single prefix is longer than its lexeme if a character of it is left out. -/
theorem aligned_single_iff {part : Text} (hsingle : Lexical.split compiled = [part])
    (hlexeme : ∃ c ∈ part, isWordChar c = true) :
    Aligned compiled ↔ ∀ c ∈ part, isWordChar c = true := by
  constructor
  · intro h
    by_contra hother
    push Not at hother
    have hl : Sql.lexeme part ∈ Sql.lexemes compiled := by
      refine Sql.mem_lexemes_iff.mpr ⟨part, by simp [hsingle], ⟨?_, by simp⟩, rfl⟩
      simpa using hlexeme
    obtain ⟨p, hp, hbegins⟩ := h.lexeme _ hl
    have hpart : p = Text.lower part := by simpa [searchPrefixes, hsingle] using hp
    have hshorter : (Sql.lexeme part).length < (Text.lower part).length :=
      Text.length_lower_filter_lt (by simpa using hother)
    have hlonger := hbegins.length_le
    rw [hpart] at hlonger
    omega
  · intro h
    exact aligned_of_words (by simpa [hsingle] using h)

/-- The search in memory finds the documents with a word that begins with a prefix of the query in
lower case. These are the documents that the full-text query asks for if and only if prefixes and
lexemes are aligned. They are aligned where all prefixes are made of word characters, and a single
prefix with a word character in it is aligned with its lexeme in no other case. -/
theorem search_matches_lexemes_iff {α : Type} [Scalar α] (hd : Descriptor.of? t = some d)
    (compiled : Text) :
    SearchMatches α t d compiled (searchPrefixes compiled) ∧
    (SearchMatches α t d compiled (Sql.listed (Sql.tsquery compiled)) ↔ Aligned compiled) ∧
    ((∀ part ∈ Lexical.split compiled, ∀ c ∈ part, isWordChar c = true) → Aligned compiled) ∧
    ∀ part, Lexical.split compiled = [part] → (∃ c ∈ part, isWordChar c = true) →
      (Aligned compiled ↔ ∀ c ∈ part, isWordChar c = true) := by
  refine ⟨searchMatches_prefixes hd compiled, ?_, aligned_of_words, fun _ => aligned_single_iff⟩
  rw [searchMatches_iff hd, Sql.listed_tsquery, beginsWith_iff_iff hd, aligned_iff]

/-- The lexeme of a prefix with an apostrophe finds films that the prefix does not find. -/
theorem apostrophe_unmatched :
    ∃ d, Descriptor.of? .video = some d ∧
      SearchMatches Float .video d "don't*" (searchPrefixes "don't*") ∧
      ¬ SearchMatches Float .video d "don't*" (Sql.listed (Sql.tsquery "don't*")) ∧
      SearchMatches Float .video d "dont* OR bit*" (Sql.listed (Sql.tsquery "dont* OR bit*")) := by
  obtain ⟨hprefixes, hlexemes, -, hsingle⟩ :=
    search_matches_lexemes_iff (α := Float) (t := .video) rfl "don't*"
  obtain ⟨-, hboth, hwords, -⟩ :=
    search_matches_lexemes_iff (α := Float) (t := .video) rfl "dont* OR bit*"
  refine ⟨_, rfl, hprefixes, ?_, hboth.mpr (hwords (by decide +kernel))⟩
  rw [hlexemes, hsingle "don't" (by decide +kernel) (by decide +kernel)]
  decide +kernel

end Alignment

end MemoryIndex

end EntitySearch
