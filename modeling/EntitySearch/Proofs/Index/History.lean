import EntitySearch.Index.Memory
import EntitySearch.Proofs.Ledger
/-!
# Histories of the index in memory

`MemoryIndex.after` is the index after any sequence of changes; a change that is refused leaves it
as it was. Whatever the history, a document stands under its own type and id, and no two documents
stand under the same (`MemoryIndex.after_keyed`).
-/

namespace EntitySearch

namespace MemoryIndex

/-- What is done to an index. -/
inductive Change where
  | add (entityType : EntityType) (document : Document) (signals : Signals)
  | remove (entityType : EntityType) (id : Text)
  | setEngagement (id : Text) (signals : Signals)
  | recordTag (tag : Text) (now : Int)

/-- The index after a change. A change that is refused changes nothing. -/
def apply (m : MemoryIndex) : Change → MemoryIndex
  | .add t doc signals =>
    match m.add t doc signals with
    | .ok added => added
    | .error _ => m
  | .remove t id =>
    match m.remove t id with
    | .ok (removed, _) => removed
    | .error _ => m
  | .setEngagement id signals => m.setEngagement id signals
  | .recordTag tag now => (m.recordTag tag now).1

/-- The index after a sequence of changes, beginning with nothing. -/
def after (changes : List Change) : MemoryIndex := changes.foldl apply {}

theorem after_concat (changes : List Change) (change : Change) :
    after (changes ++ [change]) = (after changes).apply change := by
  simp [after]

/-- Every document stands under its own id, and none stands under the same type and id as
another. -/
structure Keyed (m : MemoryIndex) : Prop where
  nodup : m.documents.keys.Nodup
  ownId : ∀ e ∈ m.documents, e.2.entityId = e.1.2

namespace Keyed

variable {m : MemoryIndex}

theorem setEngagement (h : m.Keyed) (id : Text) (signals : Signals) :
    (m.setEngagement id signals).Keyed := ⟨h.nodup, h.ownId⟩

theorem place (h : m.Keyed) (t : EntityType) (doc : Document) : (m.place t doc).Keyed := by
  refine ⟨Ledger.keys_put_nodup h.nodup _ _, ?_⟩
  intro e he
  rcases Ledger.mem_put he with rfl | hold
  · rfl
  · exact h.ownId e hold

theorem add (h : m.Keyed) {t : EntityType} {doc : Document} {signals : Signals}
    {added : MemoryIndex} (hadd : m.add t doc signals = .ok added) : added.Keyed := by
  unfold MemoryIndex.add at hadd
  split at hadd
  · cases hadd
  · simp only at hadd
    split at hadd
    · cases hadd
    · split at hadd
      · cases hadd
      · cases hadd
        split
        · exact (h.place _ _).setEngagement _ _
        · exact h.place _ _

theorem remove (h : m.Keyed) {t : EntityType} {id : Text} {removed : MemoryIndex} {was : Bool}
    (hremove : m.remove t id = .ok (removed, was)) : removed.Keyed := by
  unfold MemoryIndex.remove at hremove
  split at hremove
  · cases hremove
  · cases hremove
    refine ⟨?_, ?_⟩
    · exact h.nodup.sublist (List.filter_sublist.map _)
    · intro e he
      exact h.ownId e (List.mem_of_mem_filter he)

theorem recordTag (h : m.Keyed) (tag : Text) (now : Int) : (m.recordTag tag now).1.Keyed := by
  have hcounted : MemoryIndex.Keyed ⟨m.documents, m.engagement, m.tagUsage.put (Text.lower tag)
      (TagUsage.record (m.tagUsage.get? (Text.lower tag)) (Text.lower tag) now)⟩ :=
    ⟨h.nodup, h.ownId⟩
  exact hcounted.place _ _

theorem apply (h : m.Keyed) (change : Change) : (m.apply change).Keyed := by
  cases change with
  | add t doc signals =>
    simp only [MemoryIndex.apply]
    split
    · rename_i hadd
      exact h.add hadd
    · exact h
  | remove t id =>
    simp only [MemoryIndex.apply]
    split
    · rename_i hremove
      exact h.remove hremove
    · exact h
  | setEngagement id signals => exact h.setEngagement id signals
  | recordTag tag now => exact h.recordTag tag now

end Keyed

theorem foldl_apply_keyed (changes : List Change) {m : MemoryIndex} (h : m.Keyed) :
    (changes.foldl apply m).Keyed := by
  induction changes generalizing m with
  | nil => exact h
  | cons change rest ih => exact ih (h.apply change)

/-- After any history the documents are kept under their own ids. -/
theorem after_keyed (changes : List Change) : (after changes).Keyed :=
  foldl_apply_keyed changes ⟨List.nodup_nil, by simp⟩

end MemoryIndex

end EntitySearch
