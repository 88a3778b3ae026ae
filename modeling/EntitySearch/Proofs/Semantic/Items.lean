import EntitySearch.Proofs.Semantic.Answers
/-!
# The items of an answer

The results of an answer are what its items stand for, in the order of the items. An item is kept if
it names a known type, not that of all entities, and an id that is not empty; no other item leaves a
result (`parsed_of_results`).
-/

namespace EntitySearch.Semantic

/-- The items that the body of an answer lists. -/
def Itemizes (body : Text) (items : List Json) : Prop :=
  ∃ members,
    (body.chars?.map (Json.parseDocument maxNesting)).getD (.error .undecodable) =
      .ok (.obj members) ∧
    listed (((Json.obj members).get? "results").getD (.arr [])) = .ok items

/-- Whether an item names a known type, not that of all entities, and an id that is not empty. -/
def isKept (item : Json) : Bool := (itemType? item).isSome && !(part item "entity_id").isVacant

/-- An item that can be read stands for a result if it is kept, and for nothing otherwise. -/
theorem isSome_of_readItem {item : Json} {result? : Option (SearchResult Float)}
    (h : readItem item = .ok result?) : result?.isSome = isKept item := by
  unfold readItem at h
  unfold isKept part
  split at h
  · simp only at h
    split at h
    · rename_i htype
      cases h
      rw [htype]
      rfl
    · rename_i t htype
      rw [htype]
      split at h
      · rename_i hvacant
        cases h
        rw [hvacant]
        rfl
      · rename_i hid
        obtain ⟨score, -, h⟩ := bind_eq_ok.mp h
        obtain ⟨fields, -, h⟩ := bind_eq_ok.mp h
        obtain ⟨createdAt, -, h⟩ := bind_eq_ok.mp h
        cases h
        rw [Bool.eq_false_iff.mpr hid]
        rfl
  · cases h

/-- What the kept items stand for is what is left of the results of all items. -/
theorem forall₂_kept {items : List Json} {read : List (Option (SearchResult Float))}
    (h : List.Forall₂ (fun item result? => readItem item = .ok result?) items read) :
    List.Forall₂ (fun item r => readItem item = .ok (some r)) (items.filter isKept)
      (read.filterMap id) := by
  induction h with
  | nil => exact List.Forall₂.nil
  | @cons item result? items read hitem _ ih =>
    have hkept := isSome_of_readItem hitem
    cases result? with
    | none =>
      rw [List.filter_cons_of_neg (by simp [← hkept])]
      exact ih
    | some r =>
      rw [List.filter_cons_of_pos (by simp [← hkept])]
      exact List.Forall₂.cons hitem ih

/-- Results are those of an answer of status 200: what its kept items stand for, in their order. -/
structure Parsed (a : ServiceAnswer) (results : List (SearchResult Float)) : Prop where
  reached : a.unreachable = false
  status : a.status = 200
  items : ∃ items, Itemizes a.body items ∧
    List.Forall₂ (fun item r => readItem item = .ok (some r)) (items.filter isKept) results

theorem parsed_of_results {a : ServiceAnswer} {results : List (SearchResult Float)}
    (h : a.results = .ok results) : Parsed a results := by
  obtain ⟨hstatus, hbody⟩ := results_eq_ok h
  have hreached : a.unreachable = false := by
    unfold ServiceAnswer.results at h
    split at h
    · cases h
    · rename_i hreached
      exact Bool.eq_false_iff.mpr hreached
  refine ⟨hreached, hstatus, ?_⟩
  unfold readBody at hbody
  split at hbody
  · cases hbody
  · rename_i value hvalue
    split at hbody
    · rename_i members
      obtain ⟨items, hitems, hbody⟩ := bind_eq_ok.mp hbody
      obtain ⟨read, hread, hbody⟩ := bind_eq_ok.mp hbody
      cases hbody
      exact ⟨items, ⟨members, hvalue, hitems⟩, forall₂_kept (mapM_eq_ok hread)⟩
    · cases hbody

end EntitySearch.Semantic
