import EntitySearch.Proofs.Index.Holdings
/-!
# The order in which documents were entered

A key is held since the change that entered a document under it when there was none
(`MemoryIndex.HeldSince`). The documents of an index stand in the order in which their keys were
entered (`MemoryIndex.documentsOf_inOrder`): replacing a document leaves it in its place, and one
that was removed and is entered again comes last.
-/

namespace EntitySearch

namespace MemoryIndex

/-- In a history nothing stood under a key after some changes, and something after each later
one. -/
structure HeldSince (changes : List Change) (key : EntityType × Text) (moment : ℕ) : Prop where
  within : moment < changes.length
  new : ¬ Held key (changes.take moment)
  kept : ∀ later, moment < later → later ≤ changes.length → Held key (changes.take later)

/-- In a history one key is held longer than another. -/
def EnteredBefore (changes : List Change) (a b : EntityType × Text) : Prop :=
  ∃ i j, HeldSince changes a i ∧ HeldSince changes b j ∧ i < j

variable {changes : List Change} {change : Change} {key a b : EntityType × Text} {i : ℕ}

/-! ## One more change -/

/-- What is still held after one more change has been held since the same one. -/
theorem HeldSince.concat (h : HeldSince changes key i) (hheld : Held key (changes ++ [change])) :
    HeldSince (changes ++ [change]) key i := by
  have hwithin := h.within
  refine ⟨by simp; omega, ?_, ?_⟩
  · rw [List.take_append_of_le_length hwithin.le]
    exact h.new
  · intro later hlater hle
    rw [List.length_append, List.length_singleton] at hle
    rcases Nat.lt_or_ge changes.length later with hlast | hbefore
    · rw [List.take_of_length_le (by simp; omega)]
      exact hheld
    · rw [List.take_append_of_le_length hbefore]
      exact h.kept later hlater hbefore

/-- What is held after one more change and was not before has been held since that change. -/
theorem heldSince_last (hnew : ¬ Held key changes) (hheld : Held key (changes ++ [change])) :
    HeldSince (changes ++ [change]) key changes.length := by
  refine ⟨by simp, by simpa using hnew, ?_⟩
  intro later hlater hle
  rw [List.take_of_length_le (by simp; omega)]
  exact hheld

theorem exists_heldSince (h : Held key changes) : ∃ i, HeldSince changes key i := by
  induction changes using List.reverseRecOn with
  | nil => exact absurd h not_since_nil
  | append_singleton changes change ih =>
    -- it was held before the last change, or that change entered it
    by_cases hbefore : Held key changes
    · obtain ⟨i, hi⟩ := ih hbefore
      exact ⟨i, hi.concat h⟩
    · exact ⟨_, heldSince_last hbefore h⟩

theorem EnteredBefore.concat (h : EnteredBefore changes a b) (ha : Held a (changes ++ [change]))
    (hb : Held b (changes ++ [change])) : EnteredBefore (changes ++ [change]) a b := by
  obtain ⟨i, j, hi, hj, hlt⟩ := h
  exact ⟨i, j, hi.concat ha, hj.concat hb, hlt⟩

/-- A key that is entered now is held for a shorter time than one that is held already. -/
theorem enteredBefore_last (ha : Held a changes) (ha' : Held a (changes ++ [change]))
    (hb : ¬ Held b changes) (hb' : Held b (changes ++ [change])) :
    EnteredBefore (changes ++ [change]) a b := by
  obtain ⟨i, hi⟩ := exists_heldSince ha
  exact ⟨i, _, hi.concat ha', heldSince_last hb hb', hi.within⟩

/-! ## The order of the keys -/

/-- A change takes keys away, or enters one behind all others. -/
theorem keys_apply (m : MemoryIndex) (change : Change) :
    (m.apply change).documents.keys.Sublist m.documents.keys ∨
      ∃ key, key ∉ m.documents.keys ∧
        (m.apply change).documents.keys = m.documents.keys ++ [key] := by
  have hput : ∀ (documents : Ledger (EntityType × Text) Document) key doc,
      (documents.put key doc).keys.Sublist documents.keys ∨
        ∃ key', key' ∉ documents.keys ∧
          (documents.put key doc).keys = documents.keys ++ [key'] := by
    intro documents key doc
    rw [Ledger.keys_put]
    split
    · exact Or.inl (List.Sublist.refl _)
    · rename_i hnew
      exact Or.inr ⟨key, hnew, rfl⟩
  by_cases haccepted : change.Accepted
  · cases change with
    | add t doc signals =>
      rw [apply_add haccepted, entered_documents]
      exact hput _ _ _
    | remove t id =>
      rw [apply_remove haccepted]
      exact Or.inl (List.filter_sublist.map _)
    | setEngagement id signals => exact Or.inl (List.Sublist.refl _)
    | recordTag tag now => exact hput _ _ _
  · rw [apply_of_not_accepted haccepted]
    exact Or.inl (List.Sublist.refl _)

/-- The keys of an index stand in the order in which they were entered. -/
theorem keys_inOrder (changes : List Change) :
    (after changes).documents.keys.Pairwise (EnteredBefore changes) := by
  induction changes using List.reverseRecOn with
  | nil => exact List.Pairwise.nil
  | append_singleton changes change ih =>
    have hbefore := mem_keys_after_iff changes
    have hafter := mem_keys_after_iff (changes ++ [change])
    rw [after_concat] at hafter ⊢
    rcases keys_apply (after changes) change with hsub | ⟨key, hnew, hkeys⟩
    · -- the keys that are left have been held all along
      refine (ih.sublist hsub).imp_of_mem ?_
      intro a b ha hb h
      exact h.concat ((hafter a).mp ha) ((hafter b).mp hb)
    · -- the new key stands behind those that were held before
      rw [hkeys] at hafter ⊢
      have hheld : ∀ a ∈ (after changes).documents.keys, Held a (changes ++ [change]) :=
        fun a ha => (hafter a).mp (List.mem_append_left _ ha)
      refine List.pairwise_append.mpr ⟨?_, List.pairwise_singleton _ _, ?_⟩
      · exact ih.imp_of_mem fun ha hb h => h.concat (hheld _ ha) (hheld _ hb)
      · intro a ha b hb
        rw [List.mem_singleton.mp hb]
        exact enteredBefore_last ((hbefore a).mp ha) (hheld a ha)
          (fun h => hnew ((hbefore key).mpr h))
          ((hafter key).mp (List.mem_append_right _ (List.mem_singleton_self key)))

/-- The documents of a type stand in the order in which they were entered. -/
theorem documentsOf_inOrder (changes : List Change) (t : EntityType) :
    ((after changes).documentsOf t).Pairwise fun a b =>
      EnteredBefore changes (t, a.entityId) (t, b.entityId) := by
  have hkeys : (after changes).documents.Pairwise fun a b => EnteredBefore changes a.1 b.1 :=
    List.pairwise_map.mp (keys_inOrder changes)
  have hown := (after_keyed changes).ownId
  unfold documentsOf
  rw [List.pairwise_filterMap]
  refine hkeys.imp_of_mem ?_
  intro a b ha hb h doc hdoc doc' hdoc'
  simp only [Option.ite_none_right_eq_some, Option.some.injEq] at hdoc hdoc'
  obtain ⟨hta, rfl⟩ := hdoc
  obtain ⟨htb, rfl⟩ := hdoc'
  rw [hown a ha, hown b hb]
  have hkey : ∀ e : (EntityType × Text) × Document, e.1.1 = t → (t, e.1.2) = e.1 := by
    rintro ⟨⟨t', id⟩, doc⟩ rfl
    rfl
  rw [hkey a hta, hkey b htb]
  exact h

end MemoryIndex

end EntitySearch
