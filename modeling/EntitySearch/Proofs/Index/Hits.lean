import EntitySearch.Proofs.Fallible
import EntitySearch.Proofs.Index.History
import EntitySearch.Proofs.Ranking.Rearrangement
/-!
# What a search in memory finds

A hit of the index in memory is one of its documents of the type that was searched, which passes
the filters, and no document is hit twice (`MemoryIndex.search_holds`, `search_ids_nodup`). Asking
which of some entities pass the filters names only those (`mem_filterMatching`).
-/

namespace EntitySearch

/-! ## Descriptors -/

namespace Descriptor

theorem entityType_of? {t : EntityType} {d : Descriptor} (h : of? t = some d) :
    d.entityType = t := by
  cases t <;> cases h <;> rfl

theorem typeOfIndex?_of? {t : EntityType} {d : Descriptor} (h : of? t = some d) :
    MemoryIndex.typeOfIndex? d.index = some t := by
  cases t <;> cases h <;> decide

end Descriptor

namespace MemoryIndex

variable {m : MemoryIndex}

/-- The index holds a document under a type and id that passes the filters. -/
def Holds (m : MemoryIndex) (d : Descriptor) (f : Filters) (key : EntityType × Text) : Prop :=
  ∃ doc, m.documents.get? key = some doc ∧ m.passesIn d f doc = .ok true

/-! ## Documents of a type -/

theorem mem_documentsOf {t : EntityType} {doc : Document} :
    doc ∈ m.documentsOf t ↔ ∃ id, ((t, id), doc) ∈ m.documents := by
  unfold documentsOf
  rw [List.mem_filterMap]
  constructor
  · rintro ⟨⟨⟨t', id⟩, doc'⟩, hmem, heq⟩
    by_cases ht : t' = t
    · simp only [ht, if_true, Option.some.injEq] at heq
      exact ⟨id, by rw [← ht, ← heq]; exact hmem⟩
    · simp [ht] at heq
  · rintro ⟨id, hmem⟩
    exact ⟨_, hmem, by simp⟩

theorem Keyed.get?_of_mem (h : m.Keyed) {t : EntityType} {doc : Document}
    (hdoc : doc ∈ m.documentsOf t) : m.documents.get? (t, doc.entityId) = some doc := by
  obtain ⟨id, hmem⟩ := mem_documentsOf.mp hdoc
  have hid := h.ownId _ hmem
  simp only at hid
  rw [hid]
  exact Ledger.get?_of_mem h.nodup hmem

/-- No two documents of a type have the same id. -/
theorem Keyed.ids_nodup (h : m.Keyed) (t : EntityType) :
    ((m.documentsOf t).map Document.entityId).Nodup := by
  have hkeys : m.documents.Pairwise fun a b => a.1 ≠ b.1 := List.pairwise_map.mp h.nodup
  have hdocs : (m.documentsOf t).Pairwise fun a b => a.entityId ≠ b.entityId := by
    unfold documentsOf
    rw [List.pairwise_filterMap]
    refine hkeys.imp_of_mem ?_
    intro a b ha hb hne doc hdoc doc' hdoc' heq
    by_cases hta : a.1.1 = t
    · by_cases htb : b.1.1 = t
      · simp only [hta, htb, if_true, Option.some.injEq] at hdoc hdoc'
        -- both stand under the type, so equal ids mean equal keys
        have hids : a.1.2 = b.1.2 := by
          rw [← h.ownId a ha, ← h.ownId b hb, hdoc, hdoc', heq]
        exact hne (Prod.ext (hta.trans htb.symm) hids)
      · simp [htb] at hdoc'
    · simp [hta] at hdoc
  exact List.pairwise_map.mpr hdocs

/-! ## Hits -/

variable {α : Type} [Scalar α]

theorem entityId_hit? {d : Descriptor} {prefixes : List Text} {doc : Document} {hit : Hit α}
    (h : hit? d prefixes doc = some hit) : hit.entityId = doc.entityId := by
  unfold hit? at h
  simp only at h
  split at h
  · cases h
  · cases h
    rfl

/-- The hits of documents, of which some have none, name documents among them in their order. -/
theorem ids_filterMap_hit? (d : Descriptor) (prefixes : List Text) (docs : List Document) :
    ((docs.filterMap (hit? (α := α) d prefixes)).map Hit.entityId).Sublist
      (docs.map Document.entityId) := by
  induction docs with
  | nil => exact List.Sublist.refl _
  | cons doc rest ih =>
    cases hhit : hit? (α := α) d prefixes doc with
    | none =>
      rw [List.filterMap_cons_none hhit]
      exact ih.cons _
    | some hit =>
      rw [List.filterMap_cons_some hhit, List.map_cons, List.map_cons, entityId_hit? hhit]
      exact ih.cons_cons _

/-- A search in an index that is answered has the hits of documents that pass the filters,
rearranged and cut. -/
theorem search_index_eq_ok {t : EntityType} {d : Descriptor} (ht : typeOfIndex? d.index = some t)
    {compiled : Text} {f : Filters} {limit : Int} {hits : List (Hit α)}
    (h : m.search d compiled f limit = .ok hits) :
    hits = [] ∨ ∃ ranked, hits = cut limit ranked ∧ ranked.Perm
      (((m.documentsOf t).filter fun doc => isPassed (m.passesIn d f doc)).filterMap
        (hit? d (searchPrefixes compiled))) := by
  unfold search at h
  rw [ht] at h
  simp only at h
  split at h
  · cases h
    exact Or.inl rfl
  · cases hpassing : (m.documentsOf t).filterM (m.passesIn d f) with
    | error e =>
      rw [hpassing] at h
      cases h
    | ok passing =>
      rw [hpassing] at h
      cases h
      refine Or.inr ⟨_, rfl, ?_⟩
      -- no test has failed, so filtering is plain
      rw [filterM_eq_ok hpassing]
      exact sortDescending_perm _ _ _ _

theorem search_eq_ok {t : EntityType} {d : Descriptor} (hd : Descriptor.of? t = some d)
    {compiled : Text} {f : Filters} {limit : Int} {hits : List (Hit α)}
    (h : m.search d compiled f limit = .ok hits) :
    hits = [] ∨ ∃ ranked, hits = cut limit ranked ∧ ranked.Perm
      (((m.documentsOf t).filter fun doc => isPassed (m.passesIn d f doc)).filterMap
        (hit? d (searchPrefixes compiled))) :=
  search_index_eq_ok (Descriptor.typeOfIndex?_of? hd) h

/-- Every hit stands for a document of the type that passes the filters. -/
theorem search_holds (hm : m.Keyed) {t : EntityType} {d : Descriptor}
    (hd : Descriptor.of? t = some d) {compiled : Text} {f : Filters} {limit : Int}
    {hits : List (Hit α)} (h : m.search d compiled f limit = .ok hits) {hit : Hit α}
    (hhit : hit ∈ hits) : m.Holds d f (t, hit.entityId) := by
  rcases search_eq_ok hd h with rfl | ⟨ranked, rfl, hperm⟩
  · simp at hhit
  · have hranked := hperm.mem_iff.mp ((cut_sublist limit ranked).subset hhit)
    obtain ⟨doc, hdoc, heq⟩ := List.mem_filterMap.mp hranked
    obtain ⟨hof, hpasses⟩ := List.mem_filter.mp hdoc
    refine ⟨doc, ?_, isPassed_iff.mp hpasses⟩
    rw [entityId_hit? heq]
    exact hm.get?_of_mem hof

/-- No document is hit twice. -/
theorem search_ids_nodup (hm : m.Keyed) {t : EntityType} {d : Descriptor}
    (hd : Descriptor.of? t = some d) {compiled : Text} {f : Filters} {limit : Int}
    {hits : List (Hit α)} (h : m.search d compiled f limit = .ok hits) :
    (hits.map Hit.entityId).Nodup := by
  rcases search_eq_ok hd h with rfl | ⟨ranked, rfl, hperm⟩
  · exact List.nodup_nil
  · have hids := (ids_filterMap_hit? (α := α) d (searchPrefixes compiled)
      ((m.documentsOf t).filter fun doc => isPassed (m.passesIn d f doc))).trans
      (List.filter_sublist.map Document.entityId)
    have hranked : (ranked.map Hit.entityId).Nodup :=
      (hperm.map Hit.entityId).nodup_iff.mpr ((hm.ids_nodup t).sublist hids)
    exact hranked.sublist ((cut_sublist limit ranked).map _)

/-! ## Entities that pass the filters -/

theorem mem_filterMatching {t : EntityType} {d : Descriptor} (hd : Descriptor.of? t = some d)
    {ids matching : List Text} {f : Filters} (h : m.filterMatching d ids f = .ok matching)
    {id : Text} : id ∈ matching ↔ id ∈ ids ∧ m.Holds d f (t, id) := by
  unfold filterMatching at h
  rw [Descriptor.typeOfIndex?_of? hd] at h
  rw [filterM_eq_ok h, List.mem_filter]
  refine and_congr_right fun _ => ?_
  rw [isPassed_iff]
  unfold Holds
  cases m.documents.get? (t, id) with
  | none => simp [pure, Except.pure]
  | some doc => simp

end MemoryIndex

end EntitySearch
