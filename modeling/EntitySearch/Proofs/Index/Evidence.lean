import EntitySearch.Proofs.Index.PrefixMatching
import EntitySearch.Proofs.Index.Scores
/-!
# What a hit says of its document

A document matches a prefix if a word of a searchable field begins with it, and a field matches if a
word of it begins with some prefix. A hit of a document tells which fields match, and its score
counts the prefixes and the fields that do (`MemoryIndex.shows_hit?`); a document that matches has a
hit.
-/

namespace EntitySearch

open Text (HasWord)

/-! ## Lists without repeats -/

section Repeats

variable {β : Type}

theorem nodup_eraseDups [BEq β] [LawfulBEq β] (items : List β) : items.eraseDups.Nodup := by
  induction hlength : items.length using Nat.strong_induction_on generalizing items with
  | _ n ih =>
    cases items with
    | nil => simp
    | cons x rest =>
      have hshorter := List.length_filter_le (fun y => !y == x) rest
      rw [List.eraseDups_cons, List.nodup_cons, List.mem_eraseDups]
      refine ⟨by simp, ih _ ?_ _ rfl⟩
      rw [List.length_cons] at hlength
      omega

theorem eraseDups_of_nodup [BEq β] [LawfulBEq β] {items : List β} (h : items.Nodup) :
    items.eraseDups = items := by
  induction items with
  | nil => simp
  | cons x rest ih =>
    obtain ⟨hnew, hrest⟩ := List.nodup_cons.mp h
    have hkept : rest.filter (fun y => !y == x) = rest := by
      rw [List.filter_eq_self]
      intro y hy
      have hne : y ≠ x := fun heq => hnew (heq ▸ hy)
      simp [hne]
    rw [List.eraseDups_cons, hkept, ih hrest]

/-- A list without repeats counts what is in it. -/
theorem ncard_eq_length {items : List β} (h : items.Nodup) {P : β → Prop}
    (hmem : ∀ x, x ∈ items ↔ P x) : {x | P x}.ncard = items.length := by
  classical
  have hset : {x | P x} = (items.toFinset : Set β) := by
    ext x
    simp [hmem]
  rw [hset, Set.ncard_coe_finset, List.toFinset_card_of_nodup h]

end Repeats

/-! ## Matches -/

namespace Document

variable (doc : Document) (d : Descriptor) (prefixes : List Text)

/-- A word of a field begins, in lower case, with one of some prefixes. -/
def FieldBegins (name : Text) : Prop :=
  ∃ value, doc.fields.get? name = some value ∧
    ∃ word, HasWord value word ∧ ∃ p ∈ prefixes, p <+: Text.lower word

/-- The prefixes that match a document. -/
noncomputable def prefixCount : ℕ := {p | p ∈ prefixes ∧ doc.BeginsWith d [p]}.ncard

/-- The fields of a document that match. -/
noncomputable def fieldCount : ℕ :=
  {name | name ∈ d.fields ∧ doc.FieldBegins prefixes name}.ncard

theorem beginsWith_iff :
    doc.BeginsWith d prefixes ↔ ∃ name ∈ d.fields, doc.FieldBegins prefixes name :=
  Iff.rfl

theorem finite_prefixes : {p | p ∈ prefixes ∧ doc.BeginsWith d [p]}.Finite :=
  (List.finite_toSet prefixes).subset fun _ hp => hp.1

theorem finite_fields : {name | name ∈ d.fields ∧ doc.FieldBegins prefixes name}.Finite :=
  (List.finite_toSet d.fields).subset fun _ hname => hname.1

variable {doc d prefixes}

theorem one_le_prefixCount_iff : 1 ≤ doc.prefixCount d prefixes ↔ doc.BeginsWith d prefixes := by
  unfold prefixCount
  rw [Nat.one_le_iff_ne_zero, ← Nat.pos_iff_ne_zero, Set.ncard_pos (doc.finite_prefixes d prefixes)]
  constructor
  · rintro ⟨p, hp, name, hname, value, hvalue, word, hword, p', hp', hbegins⟩
    rw [List.mem_singleton.mp hp'] at hbegins
    exact ⟨name, hname, value, hvalue, word, hword, p, hp, hbegins⟩
  · rintro ⟨name, hname, value, hvalue, word, hword, p, hp, hbegins⟩
    exact ⟨p, hp, name, hname, value, hvalue, word, hword, p, List.mem_singleton_self p, hbegins⟩

theorem one_le_fieldCount_iff : 1 ≤ doc.fieldCount d prefixes ↔ doc.BeginsWith d prefixes := by
  unfold fieldCount
  rw [Nat.one_le_iff_ne_zero, ← Nat.pos_iff_ne_zero, Set.ncard_pos (doc.finite_fields d prefixes)]
  rfl

theorem ncard_le_length {items : List Text} {P : Text → Prop} (h : ∀ x, P x → x ∈ items) :
    {x | P x}.ncard ≤ items.length := by
  have hsub : {x | P x} ⊆ (items.toFinset : Set Text) := fun x hx => by simpa using h x hx
  refine (Set.ncard_le_ncard hsub (Finset.finite_toSet _)).trans ?_
  rw [Set.ncard_coe_finset]
  exact List.toFinset_card_le items

end Document

/-- A hit says what it should of a document. -/
structure Hit.Shows {α : Type} [Scalar α] (hit : Hit α) (d : Descriptor) (prefixes : List Text)
    (doc : Document) : Prop where
  entityId : hit.entityId = doc.entityId
  createdAt : hit.createdAt = doc.createdAt
  /-- The fields come in their order. -/
  inOrder : hit.matchFields.Sublist d.fields
  matchFields : ∀ name, name ∈ hit.matchFields ↔
    name ∈ d.fields ∧ doc.FieldBegins prefixes name
  score : hit.score = rawScore α (doc.prefixCount d prefixes) (doc.fieldCount d prefixes)

theorem Descriptor.fields_of? {t : EntityType} {d : Descriptor} (h : of? t = some d) :
    d.fields.Nodup ∧ d.fields.length ≤ 4 := by
  cases t <;> cases h <;> decide

/-- A document that matches does so in the usual numbers. -/
theorem Document.BeginsWith.usual {t : EntityType} {d : Descriptor} (hd : Descriptor.of? t = some d)
    {doc : Document} {prefixes : List Text} (h : doc.BeginsWith d prefixes) {bound : ℕ}
    (hbound : prefixes.length < bound) :
    Usual bound (doc.prefixCount d prefixes) (doc.fieldCount d prefixes) where
  somePrefix := one_le_prefixCount_iff.mpr h
  fewPrefixes := lt_of_le_of_lt (ncard_le_length fun _ hp => hp.1) hbound
  someField := one_le_fieldCount_iff.mpr h
  fewFields := (ncard_le_length fun _ hname => hname.1).trans (Descriptor.fields_of? hd).2

namespace MemoryIndex

variable {α : Type} [Scalar α] {d : Descriptor} {prefixes : List Text} {doc : Document}

theorem mem_matchedPrefixes_iff {name p : Text} :
    p ∈ matchedPrefixes prefixes doc name ↔ p ∈ prefixes ∧ doc.FieldBegins [p] name := by
  have hmatched : p ∈ matchedPrefixes prefixes doc name ↔
      p ∈ prefixes ∧ matchedPrefixes [p] doc name ≠ [] := by
    simp [matchedPrefixes]
  rw [hmatched, matchedPrefixes_ne_nil_iff]
  rfl

/-- The fields that match, with the prefixes that match them. -/
def matchedFields (d : Descriptor) (prefixes : List Text) (doc : Document) :
    List (Text × List Text) :=
  (d.fields.map fun name => (name, matchedPrefixes prefixes doc name)).filter fun e => !e.2.isEmpty

theorem map_fst_matchedFields :
    (matchedFields d prefixes doc).map Prod.fst =
      d.fields.filter fun name => !(matchedPrefixes prefixes doc name).isEmpty := by
  unfold matchedFields
  rw [List.filter_map, List.map_map]
  exact List.map_id _

theorem mem_map_fst_matchedFields_iff {name : Text} :
    name ∈ (matchedFields d prefixes doc).map Prod.fst ↔
      name ∈ d.fields ∧ doc.FieldBegins prefixes name := by
  have hmatched : (!(matchedPrefixes prefixes doc name).isEmpty) = true ↔
      doc.FieldBegins prefixes name := by
    rw [Bool.not_eq_true', List.isEmpty_eq_false_iff]
    exact matchedPrefixes_ne_nil_iff
  rw [map_fst_matchedFields, List.mem_filter, hmatched]

theorem mem_flatMap_matchedFields_iff {p : Text} :
    p ∈ (matchedFields d prefixes doc).flatMap Prod.snd ↔ p ∈ prefixes ∧ doc.BeginsWith d [p] := by
  simp only [matchedFields, List.mem_flatMap, List.mem_filter, List.mem_map]
  rw [Document.beginsWith_iff]
  constructor
  · rintro ⟨_, ⟨⟨name, hname, rfl⟩, -⟩, hp⟩
    obtain ⟨hlisted, hbegins⟩ := mem_matchedPrefixes_iff.mp hp
    exact ⟨hlisted, name, hname, hbegins⟩
  · rintro ⟨hlisted, name, hname, hbegins⟩
    have hp := mem_matchedPrefixes_iff.mpr ⟨hlisted, hbegins⟩
    refine ⟨_, ⟨⟨name, hname, rfl⟩, ?_⟩, hp⟩
    rw [Bool.not_eq_true', List.isEmpty_eq_false_iff]
    exact List.ne_nil_of_mem hp

/-- What the hit of a document is made of: the fields that match, of which the first gives the
snippet. -/
theorem hit?_eq_some {hit : Hit α} (h : hit? d prefixes doc = some hit) :
    ∃ first found rest, matchedFields d prefixes doc = (first, found) :: rest ∧
      hit =
        { entityId := doc.entityId
          score := rawScore α ((matchedFields d prefixes doc).flatMap Prod.snd).eraseDups.length
            ((matchedFields d prefixes doc).map Prod.fst).eraseDups.length
          snippet := some (Highlight.snippet prefixes ((doc.fields.get? first).getD []))
          matchFields := ((matchedFields d prefixes doc).map Prod.fst).eraseDups
          createdAt := doc.createdAt } := by
  have hmatchedFields : ((d.fields.map fun name => (name, matchedPrefixes prefixes doc name)).filter
      fun e => !e.2.isEmpty) = matchedFields d prefixes doc := rfl
  unfold hit? at h
  simp only [hmatchedFields] at h
  split at h
  · cases h
  · rename_i first found rest hmatched
    cases h
    exact ⟨first, found, rest, hmatched, rfl⟩

/-- The hit of a document tells which fields match, and counts the prefixes and fields that do. -/
theorem shows_hit? (hfields : d.fields.Nodup) {hit : Hit α} (h : hit? d prefixes doc = some hit) :
    hit.Shows d prefixes doc := by
  have hnames : ((matchedFields d prefixes doc).map Prod.fst).Nodup := by
    rw [map_fst_matchedFields]
    exact hfields.filter _
  have hfieldCount : doc.fieldCount d prefixes =
      ((matchedFields d prefixes doc).map Prod.fst).eraseDups.length := by
    rw [eraseDups_of_nodup hnames]
    exact ncard_eq_length hnames fun _ => mem_map_fst_matchedFields_iff
  have hprefixCount : doc.prefixCount d prefixes =
      ((matchedFields d prefixes doc).flatMap Prod.snd).eraseDups.length := by
    refine ncard_eq_length (nodup_eraseDups _) fun p => ?_
    rw [List.mem_eraseDups]
    exact mem_flatMap_matchedFields_iff
  obtain ⟨-, -, -, -, rfl⟩ := hit?_eq_some h
  refine ⟨rfl, rfl, ?_, ?_, ?_⟩
  · rw [eraseDups_of_nodup hnames, map_fst_matchedFields]
    exact List.filter_sublist
  · intro name
    refine List.mem_eraseDups.trans ?_
    exact mem_map_fst_matchedFields_iff
  · rw [hprefixCount, hfieldCount]

end MemoryIndex

end EntitySearch
