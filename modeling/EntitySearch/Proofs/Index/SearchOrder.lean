import EntitySearch.Proofs.Index.Checks
import EntitySearch.Proofs.Index.EntryOrder
import EntitySearch.Proofs.Index.Evidence
import EntitySearch.Proofs.Index.FilterConditions
import EntitySearch.Proofs.Ranking.Stability
/-!
# The hits of a search and their order

A search shows the documents of a type that pass the filters and match, in the order of the prefixes
that match, of the fields that match and of the times of creation, all descending, and then in the
order in which they were entered (`MemoryIndex.search_inOrder`). So a document that matches more
prefixes always comes before one that matches fewer.
-/

namespace EntitySearch

/-- The items for which there is something, beside what there is. -/
theorem forall₂_filterMap {β γ : Type} (f : β → Option γ) (items : List β) :
    List.Forall₂ (fun y x => f x = some y) (items.filterMap f)
      (items.filter fun x => (f x).isSome) := by
  induction items with
  | nil => exact List.Forall₂.nil
  | cons x rest ih =>
    cases hx : f x with
    | none => simpa [List.filterMap_cons_none hx, List.filter_cons, hx] using ih
    | some y =>
      rw [List.filterMap_cons_some hx, List.filter_cons, hx, Option.isSome_some, if_pos rfl]
      exact List.Forall₂.cons hx ih

/-- What decides about the place of a document that matches: the number of prefixes, then the number
of fields, then the time of creation. -/
noncomputable def Document.standing (d : Descriptor) (prefixes : List Text) (doc : Document) :
    ℕ ×ₗ ℕ ×ₗ ℤ :=
  toLex (doc.prefixCount d prefixes, toLex (doc.fieldCount d prefixes, doc.createdAt))

namespace MemoryIndex

variable {m : MemoryIndex} {t : EntityType} {d : Descriptor} {f : Filters} {prefixes : List Text}

/-- The documents of a type that pass the filters and match, in their order. -/
noncomputable def rankedDocuments (m : MemoryIndex) (t : EntityType) (d : Descriptor) (f : Filters)
    (prefixes : List Text) : List Document :=
  (((m.documentsOf t).filter fun doc => isPassed (m.passesIn d f doc)).filter
    fun doc => 1 ≤ doc.prefixCount d prefixes).insertionSort
      (NotBelow (Document.standing d prefixes))

/-- Documents are listed in the order of a search. -/
structure Ranked (changes : List Change) (t : EntityType) (d : Descriptor) (f : Filters)
    (prefixes : List Text) (ranked : List Document) : Prop where
  once : (ranked.map Document.entityId).Nodup
  mem_iff : ∀ doc, doc ∈ ranked ↔ doc ∈ (after changes).documentsOf t ∧
    (after changes).passesIn d f doc = .ok true ∧ 1 ≤ doc.prefixCount d prefixes
  /-- One stands higher than the other, or they stand equal and one was entered before the other. -/
  inOrder : ranked.Pairwise (Before (Document.standing d prefixes)
    fun a b => EnteredBefore changes (t, a.entityId) (t, b.entityId))

theorem ranked_rankedDocuments (changes : List Change) (t : EntityType) (d : Descriptor)
    (f : Filters) (prefixes : List Text) :
    Ranked changes t d f prefixes ((after changes).rankedDocuments t d f prefixes) := by
  have hsublist : (((after changes).documentsOf t).filter fun doc =>
      isPassed ((after changes).passesIn d f doc)).filter
        (fun doc => 1 ≤ doc.prefixCount d prefixes) |>.Sublist ((after changes).documentsOf t) :=
    List.filter_sublist.trans List.filter_sublist
  have hperm := List.perm_insertionSort (NotBelow (Document.standing d prefixes))
    ((((after changes).documentsOf t).filter fun doc =>
      isPassed ((after changes).passesIn d f doc)).filter
        fun doc => 1 ≤ doc.prefixCount d prefixes)
  constructor
  · exact (hperm.map _).nodup_iff.mpr
      (((after_keyed changes).ids_nodup t).sublist (hsublist.map _))
  · intro doc
    rw [rankedDocuments, hperm.mem_iff, List.mem_filter, List.mem_filter, isPassed_iff,
      decide_eq_true_eq, and_assoc]
  · exact insertionSort_before ((documentsOf_inOrder changes t).sublist hsublist)

/-- A document that matches more prefixes comes before one that matches fewer. -/
theorem Ranked.morePrefixes {changes : List Change} {ranked : List Document}
    (h : Ranked changes t d f prefixes ranked) :
    ranked.Pairwise fun a b => b.prefixCount d prefixes ≤ a.prefixCount d prefixes :=
  h.inOrder.imp fun hbefore => (Prod.Lex.toLex_le_toLex'.mp hbefore.notBelow).1

/-! ## Scores -/

variable {α : Type} [Scalar α] {bound : ℕ}

/-- Scores with times are in the order of the standings of the documents. -/
theorem pairLess_eq (hscores : ScoresInOrder α bound) {a b : Document}
    (ha : Usual bound (a.prefixCount d prefixes) (a.fieldCount d prefixes))
    (hb : Usual bound (b.prefixCount d prefixes) (b.fieldCount d prefixes)) :
    Scalar.pairLess (rawScore α (a.prefixCount d prefixes) (a.fieldCount d prefixes), a.createdAt)
        (rawScore α (b.prefixCount d prefixes) (b.fieldCount d prefixes), b.createdAt) =
      decide (a.standing d prefixes < b.standing d prefixes) := by
  obtain ⟨hless, hsame⟩ := hscores.compare ha hb
  have hstanding : a.standing d prefixes < b.standing d prefixes ↔
      a.prefixCount d prefixes < b.prefixCount d prefixes ∨
      a.prefixCount d prefixes = b.prefixCount d prefixes ∧
        (a.fieldCount d prefixes < b.fieldCount d prefixes ∨
          a.fieldCount d prefixes = b.fieldCount d prefixes ∧ a.createdAt < b.createdAt) := by
    unfold Document.standing
    rw [Prod.Lex.toLex_lt_toLex, Prod.Lex.toLex_lt_toLex]
  unfold Scalar.pairLess
  simp only [hless, hsame, decide_eq_true_eq]
  rw [Bool.eq_iff_iff, decide_eq_true_eq, hstanding]
  split <;> rw [decide_eq_true_eq] <;> omega

/-! ## Hits -/

/-- The documents that match are those that have hits. -/
theorem forall₂_matchingPassed (m : MemoryIndex) (α : Type) [Scalar α] (t : EntityType)
    (d : Descriptor) (compiled : Text) (f : Filters) :
    List.Forall₂ (fun hit doc => hit? (α := α) d (searchPrefixes compiled) doc = some hit)
      (m.matchingPassed α t d compiled f)
      (((m.documentsOf t).filter fun doc => isPassed (m.passesIn d f doc)).filter
        fun doc => 1 ≤ doc.prefixCount d (searchPrefixes compiled)) := by
  have hmatch : ∀ doc : Document, decide (1 ≤ doc.prefixCount d (searchPrefixes compiled)) =
      (hit? (α := α) d (searchPrefixes compiled) doc).isSome := by
    intro doc
    rw [Bool.eq_iff_iff, decide_eq_true_eq, isSome_hit?_iff, Document.one_le_prefixCount_iff]
  simp only [hmatch]
  exact forall₂_filterMap _ _

/-- The hits of the documents that match are ranked in the order of these documents, and each tells
what it should of its document. -/
theorem forall₂_rankHits (hscores : ScoresInOrder α bound) (hd : Descriptor.of? t = some d)
    (m : MemoryIndex) {compiled : Text} (hmany : (searchPrefixes compiled).length < bound)
    (f : Filters) :
    List.Forall₂ (fun hit doc => hit.Shows d (searchPrefixes compiled) doc)
      (rankHits (m.matchingPassed α t d compiled f))
      (m.rankedDocuments t d f (searchPrefixes compiled)) := by
  have hshows : ∀ (hit : Hit α) doc, hit? d (searchPrefixes compiled) doc = some hit →
      hit.Shows d (searchPrefixes compiled) doc := fun hit doc =>
    shows_hit? (Descriptor.fields_of? hd).1
  have husual : ∀ (hit : Hit α) doc, hit? d (searchPrefixes compiled) doc = some hit →
      Usual bound (doc.prefixCount d (searchPrefixes compiled))
        (doc.fieldCount d (searchPrefixes compiled)) := by
    intro hit doc hhit
    refine Document.BeginsWith.usual hd ((isSome_hit?_iff (α := α)).mp ?_) hmany
    rw [hhit, Option.isSome_some]
  unfold rankHits rankedDocuments
  refine List.Forall₂.imp hshows
    (forall₂_sortDescending (forall₂_matchingPassed m α t d compiled f) ?_ ?_)
  · intro hit hhit
    obtain ⟨doc, -, hfound⟩ := List.mem_filterMap.mp hhit
    show Scalar.isOrderly hit.score = true
    rw [(hshows hit doc hfound).score]
    exact hscores.orderly _ _
  · intro hit doc hit' doc' hhit hhit'
    rw [(hshows hit doc hhit).score, (hshows hit doc hhit).createdAt,
      (hshows hit' doc' hhit').score, (hshows hit' doc' hhit').createdAt]
    exact pairLess_eq hscores (husual hit doc hhit) (husual hit' doc' hhit')

/-- A search shows the first of the documents that match, each with a hit of its own. -/
theorem search_eq_ranked (hscores : ScoresInOrder α bound) (hd : Descriptor.of? t = some d)
    {compiled : Text} (hmany : (searchPrefixes compiled).length < bound) (limit : Int)
    (hchecked : searchPrefixes compiled = [] ∨ ∀ doc ∈ m.documentsOf t, m.Checked d f doc) :
    ∃ hits : List (Hit α), m.search d compiled f limit = .ok hits ∧
      List.Forall₂ (fun hit doc => hit.Shows d (searchPrefixes compiled) doc) hits
        (cut limit (m.rankedDocuments t d f (searchPrefixes compiled))) :=
  ⟨_, search_checked hd limit hchecked, List.forall₂_take _ (forall₂_rankHits hscores hd m hmany f)⟩

/-- After any history a search shows the documents of a type that pass the filters and match, each
once and with a hit that says what it should, in their order and up to the limit; and those that
match more prefixes come first. The raw scores are the numbers of prefixes and a hundredth for each
field without rounding, and in doubles they give the same order for fewer than `2 ^ 40` prefixes. A
search with prefixes fails if the filters cannot be checked on a document of the type. -/
theorem search_inOrder (changes : List Change) (hd : Descriptor.of? t = some d) (compiled : Text)
    (f : Filters) {limit : Int} (hlimit : 1 ≤ limit) :
    (searchPrefixes compiled = [] ∨
        (∀ doc ∈ (after changes).documentsOf t, (after changes).Checked d f doc) →
      ∃ ranked, Ranked changes t d f (searchPrefixes compiled) ranked ∧
        ranked.Pairwise (fun a b => b.prefixCount d (searchPrefixes compiled) ≤
          a.prefixCount d (searchPrefixes compiled)) ∧
        (∃ hits : List (Hit ℚ), (after changes).search d compiled f limit = .ok hits ∧
          List.Forall₂ (fun (hit : Hit ℚ) doc => hit.Shows d (searchPrefixes compiled) doc ∧
            hit.score = doc.prefixCount d (searchPrefixes compiled) +
              doc.fieldCount d (searchPrefixes compiled) / 100) hits (cut limit ranked)) ∧
        ((searchPrefixes compiled).length < 2 ^ 40 →
          ∃ hits : List (Hit Float), (after changes).search d compiled f limit = .ok hits ∧
            List.Forall₂ (fun hit doc => hit.Shows d (searchPrefixes compiled) doc) hits
              (cut limit ranked))) ∧
    (searchPrefixes compiled ≠ [] →
      (∃ doc ∈ (after changes).documentsOf t, ¬ (after changes).Checked d f doc) →
      (after changes).search (α := ℚ) d compiled f limit = .error .incomparable ∧
      (after changes).search (α := Float) d compiled f limit = .error .incomparable) := by
  refine ⟨fun hchecked => ?_, ?_⟩
  · have hranked := ranked_rankedDocuments changes t d f (searchPrefixes compiled)
    refine ⟨_, hranked, hranked.morePrefixes, ?_, ?_⟩
    · obtain ⟨hits, hsearch, hshows⟩ := search_eq_ranked (scoresInOrder_exact _) hd
        (Nat.lt_succ_self _) limit hchecked
      refine ⟨hits, hsearch, hshows.imp fun hit doc h => ⟨h, ?_⟩⟩
      rw [h.score, rawScore_exact]
    · intro hmany
      exact search_eq_ranked scoresInOrder_double hd hmany limit hchecked
  · rintro hprefixes ⟨doc, hdoc, hfails⟩
    exact ⟨search_unchecked hd hlimit hprefixes hdoc hfails,
      search_unchecked hd hlimit hprefixes hdoc hfails⟩

/-- Three films, the second of which matches more although it is the oldest. -/
def threeFilms : List Change :=
  [.add .video film {},
    .add .video { film with entityId := "b", fields := [("title", "bit coin")], createdAt := 1 } {},
    .add .video { film with entityId := "c" } {}]

theorem search_inOrder_films :
    ∃ d ranked, Descriptor.of? .video = some d ∧ (1 : Int) ≤ 2 ∧
      Ranked threeFilms .video d {} (searchPrefixes "bit* OR coin* OR bit*") ranked ∧
      ∃ hits : List (Hit Float),
        (after threeFilms).search d "bit* OR coin* OR bit*" {} 2 = .ok hits ∧
        List.Forall₂ (fun hit doc => hit.Shows d (searchPrefixes "bit* OR coin* OR bit*") doc) hits
          (cut 2 ranked) := by
  have hlimit : (1 : Int) ≤ 2 := by decide
  obtain ⟨hfound, -⟩ :=
    search_inOrder (t := .video) threeFilms rfl "bit* OR coin* OR bit*" {} hlimit
  obtain ⟨ranked, hranked, -, -, hdouble⟩ :=
    hfound (Or.inr fun doc _ => ⟨true, passesIn_noFilters _ _ doc⟩)
  exact ⟨_, ranked, rfl, hlimit, hranked, hdouble (by decide +kernel)⟩

/-- A search fails where a null bound is asked for, or any bound on a count that is unknown. -/
theorem search_unsigned :
    ∃ d, Descriptor.of? .video = some d ∧
      (after [.add .video unsigned {}]).search (α := ℚ) d "bit*" { minLikes := .null } 1 =
        .error .incomparable ∧
      (after [.add .video unsigned {}]).search (α := Float) d "bit*" { minLikes := .null } 1 =
        .error .incomparable ∧
      (after [.add .video unsigned { likes := none, loops := some 1 }]).search (α := Float) d "bit*"
        { minLikes := .value 0 } 1 = .error .incomparable := by
  have hdoc : ∀ signals, unsigned.kept ∈ (after [.add .video unsigned signals]).documentsOf
      .video := fun signals => kept_mem_documentsOf {} ⟨_, rfl, by decide +kernel⟩
  have hprefixes : searchPrefixes "bit*" ≠ [] := by decide +kernel
  refine ⟨_, rfl, ?_, ?_, ?_⟩
  · exact search_unchecked rfl le_rfl hprefixes (hdoc _) (not_checked_iff.mpr (by decide +kernel))
  · exact search_unchecked rfl le_rfl hprefixes (hdoc _) (not_checked_iff.mpr (by decide +kernel))
  · exact search_unchecked rfl le_rfl hprefixes (hdoc _) (not_checked_iff.mpr (by decide +kernel))

end MemoryIndex

end EntitySearch
