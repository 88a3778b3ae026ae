import EntitySearch.Proofs.Index.Hits
import EntitySearch.Search.TypeSearch
/-!
# Results of the search in one type

Adjusting gives every hit a score and leaves alone which entities are hit and in which order
(`Adjuster.keys_adjust`). The results of a type over the index in memory are therefore entities of
that type that the index confirms, each of them once (`TypeSearch.confirms_of_mem_results`,
`TypeSearch.keys_results_nodup`).
-/

namespace EntitySearch

variable {α : Type} [LogScalar α]

/-- The index confirms an entity for a query: its type has the kind that is asked for, if one is,
and the index holds a document of it that passes the filters. -/
def MemoryIndex.Confirms (m : MemoryIndex) (q : Query) (key : EntityType × Text) : Prop :=
  ∃ d, Descriptor.of? key.1 = some d ∧ d.acceptsGiven q.filters.kind = true ∧
    m.Holds d q.filters key

/-- A store none of whose searches ends by being cancelled. -/
def IndexStore.NeverCancels (store : IndexStore α) : Prop :=
  ∀ d compiled f limit, store.search d compiled f limit ≠ .cancelled

theorem MemoryIndex.toStore_neverCancels (m : MemoryIndex) :
    (m.toStore : IndexStore α).NeverCancels := by
  intro d compiled f limit h
  unfold MemoryIndex.toStore at h
  simp only at h
  split at h
  · cases h
  · cases h

/-! ## Adjusting -/

namespace Adjuster

omit [LogScalar α] in
@[simp] theorem key_shape (d : Descriptor) (hit : Hit α) (score : α) :
    (d.shape hit score).key = (d.entityType, hit.entityId) := by
  unfold Descriptor.shape
  split <;> rfl

theorem keys_adjustFrom (a : Adjuster α) (store : IndexStore α) (d : Descriptor) (now : Int)
    {position : Nat} {hits : List (Hit α)} {results : List (SearchResult α)}
    (h : a.adjustFrom store d now position hits = .ok results) :
    results.map SearchResult.key = hits.map fun hit => (d.entityType, hit.entityId) := by
  induction hits generalizing position results with
  | nil =>
    cases h
    rfl
  | cons hit rest ih =>
    unfold adjustFrom at h
    obtain ⟨score, _, h⟩ := bind_eq_ok.mp h
    obtain ⟨later, hlater, h⟩ := bind_eq_ok.mp h
    cases h
    rw [List.map_cons, List.map_cons, key_shape, ih hlater]

theorem keys_adjust (a : Adjuster α) (store : IndexStore α) (d : Descriptor)
    {hits : List (Hit α)} {results : List (SearchResult α)}
    (h : a.adjust store d hits = .ok results) :
    results.map SearchResult.key = hits.map fun hit => (d.entityType, hit.entityId) := by
  unfold adjust at h
  obtain ⟨now, _, h⟩ := bind_eq_ok.mp h
  exact keys_adjustFrom a store d now h

end Adjuster

/-! ## The search in one type -/

namespace TypeSearch

/-- A search that finds something has asked the store with the kind accepted, and shows the
adjusted hits in the order of the type. -/
theorem results_eq_nil_or (adjuster : Adjuster α) (store : IndexStore α) (t : EntityType)
    (q : Query) (limit : Int) :
    (plan adjuster store t q limit).results = [] ∨
      ∃ d hits adjusted, Descriptor.of? t = some d ∧ d.acceptsGiven q.filters.kind = true ∧
        store.search d (Lexical.build (d.queryTerms q)) q.filters limit = .hits hits ∧
        adjuster.adjust store d hits = .ok adjusted ∧
        (plan adjuster store t q limit).results = cut limit (d.order q adjusted) := by
  unfold plan
  split
  · exact Or.inl rfl
  · rename_i d hd
    split
    · exact Or.inl rfl
    · unfold inDescriptor
      split
      · exact Or.inl rfl
      · rename_i hkind
        simp only
        split
        · exact Or.inl rfl
        · unfold conclude results
          split
          · rename_i found hending
            split at hending
            · cases hending
            · cases hending
            · rename_i hits hsearch
              split at hending
              · cases hending
              · rename_i adjusted hadjust
                cases hending
                refine Or.inr ⟨d, hits, adjusted, hd, ?_, hsearch, hadjust, rfl⟩
                simpa using hkind
          · exact Or.inl rfl

/-- A search is cancelled only by a store that cancels. -/
theorem ending_ne_cancelled (adjuster : Adjuster α) {store : IndexStore α}
    (hstore : store.NeverCancels) (t : EntityType) (q : Query) (limit : Int) :
    (plan adjuster store t q limit).ending ≠ .cancelled := by
  intro hending
  unfold plan at hending
  split at hending
  · cases hending
  · rename_i d _
    split at hending
    · cases hending
    · unfold inDescriptor at hending
      split at hending
      · cases hending
      · simp only at hending
        split at hending
        · cases hending
        · unfold conclude at hending
          split at hending
          · rename_i hcancelled
            exact hstore _ _ _ _ hcancelled
          · cases hending
          · split at hending
            · cases hending
            · cases hending

theorem order_perm (d : Descriptor) (q : Query) (results : List (SearchResult α)) :
    (d.order q results).Perm results :=
  sortDescending_perm _ _ _ _

theorem search_toStore {m : MemoryIndex} {d : Descriptor} {compiled : Text} {f : Filters}
    {limit : Int} {hits : List (Hit α)}
    (h : (m.toStore : IndexStore α).search d compiled f limit = .hits hits) :
    m.search d compiled f limit = .ok hits := by
  unfold MemoryIndex.toStore at h
  simp only at h
  split at h
  · rename_i found hfound
    cases h
    exact hfound
  · cases h

variable {m : MemoryIndex} (hm : m.Keyed) (adjuster : Adjuster α) (t : EntityType) (q : Query)
  (limit : Int)

include hm in
/-- What is found in a type is of that type and confirmed by the index. -/
theorem confirms_of_mem_results {r : SearchResult α}
    (hr : r ∈ (plan adjuster m.toStore t q limit).results) :
    r.entityType = t ∧ m.Confirms q r.key := by
  rcases results_eq_nil_or adjuster m.toStore t q limit with
    hnil | ⟨d, hits, adjusted, hd, hkind, hsearch, hadjust, h⟩
  · rw [hnil] at hr
    simp at hr
  · rw [h] at hr
    have hadjusted : r ∈ adjusted :=
      (order_perm d q adjusted).mem_iff.mp ((cut_sublist limit _).subset hr)
    -- adjusting keeps type and id, so the result is one of the hits
    have hkey := List.mem_map_of_mem (f := SearchResult.key) hadjusted
    rw [Adjuster.keys_adjust adjuster m.toStore d hadjust] at hkey
    obtain ⟨hit, hhit, heq⟩ := List.mem_map.mp hkey
    rw [Descriptor.entityType_of? hd] at heq
    have hholds := MemoryIndex.search_holds hm hd (search_toStore hsearch) hhit
    refine ⟨congrArg Prod.fst heq.symm, d, ?_, hkind, ?_⟩
    · rw [← heq]
      exact hd
    · rw [← heq]
      exact hholds

include hm in
/-- No entity is found twice in a type. -/
theorem keys_results_nodup :
    ((plan adjuster m.toStore t q limit).results.map SearchResult.key).Nodup := by
  rcases results_eq_nil_or adjuster m.toStore t q limit with
    hnil | ⟨d, hits, adjusted, hd, hkind, hsearch, hadjust, h⟩
  · rw [hnil]
    exact List.nodup_nil
  · have hids := MemoryIndex.search_ids_nodup hm hd (search_toStore hsearch)
    have hadjusted : (adjusted.map SearchResult.key).Nodup := by
      rw [Adjuster.keys_adjust adjuster m.toStore d hadjust]
      refine List.pairwise_map.mpr ((List.pairwise_map.mp hids).imp ?_)
      intro a b hne heq
      exact hne (congrArg Prod.snd heq)
    rw [h]
    exact (((order_perm d q adjusted).map _).nodup_iff.mpr hadjusted).sublist
      ((cut_sublist limit _).map _)

end TypeSearch

end EntitySearch
