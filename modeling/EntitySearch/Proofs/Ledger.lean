import EntitySearch.Ledger
import Mathlib
/-!
# The keys of ledgers

Putting a value into a ledger adds at most its own key, so no key is ever there twice
(`Ledger.keys_put_nodup`), and then every entry is the one found under its key
(`Ledger.get?_of_mem`).
-/

namespace EntitySearch

namespace Ledger

variable {κ ν : Type} [DecidableEq κ]

theorem mem_keys_put (ledger : Ledger κ ν) (key other : κ) (value : ν) :
    other ∈ (ledger.put key value).keys ↔ other = key ∨ other ∈ ledger.keys := by
  induction ledger with
  | nil => simp [put, keys]
  | cons e rest ih =>
    obtain ⟨k, v⟩ := e
    by_cases hk : k = key
    · simp [put, keys, hk]
    · simp only [put, keys, hk, if_false, List.map_cons, List.mem_cons] at ih ⊢
      rw [ih]
      tauto

theorem keys_put_nodup {ledger : Ledger κ ν} (h : ledger.keys.Nodup) (key : κ) (value : ν) :
    (ledger.put key value).keys.Nodup := by
  induction ledger with
  | nil => simp [put, keys]
  | cons e rest ih =>
    obtain ⟨k, v⟩ := e
    obtain ⟨hnew, hrest⟩ := List.nodup_cons.mp h
    by_cases hk : k = key
    · simpa [put, hk, keys] using h
    · have hput := mem_keys_put rest key k value
      simp only [put, hk, if_false]
      refine List.nodup_cons.mpr ⟨?_, ih hrest⟩
      intro hmem
      rcases hput.mp hmem with heq | hin
      · exact hk heq
      · exact hnew hin

/-- A known key keeps its place, and a new one goes to the end. -/
theorem keys_put (ledger : Ledger κ ν) (key : κ) (value : ν) :
    (ledger.put key value).keys =
      if key ∈ ledger.keys then ledger.keys else ledger.keys ++ [key] := by
  induction ledger with
  | nil => simp [put, keys]
  | cons e rest ih =>
    obtain ⟨k, v⟩ := e
    by_cases hk : k = key
    · simp [put, keys, hk]
    · have hne : ¬ key = k := fun h => hk h.symm
      have hcons : ∀ others : Ledger κ ν, keys ((k, v) :: others) = k :: others.keys :=
        fun _ => rfl
      rw [put, if_neg hk, hcons, hcons, ih]
      simp only [List.mem_cons, hne, false_or]
      split <;> rfl

/-- An entry of a ledger after a value has been put in is the new one or was there before. -/
theorem mem_put {ledger : Ledger κ ν} {key : κ} {value : ν} {e : κ × ν}
    (h : e ∈ ledger.put key value) : e = (key, value) ∨ e ∈ ledger := by
  induction ledger with
  | nil => simpa [put] using h
  | cons first rest ih =>
    obtain ⟨k, v⟩ := first
    by_cases hk : k = key
    · subst hk
      simp only [put, if_true, List.mem_cons] at h
      rcases h with rfl | hin
      · exact Or.inl rfl
      · exact Or.inr (List.mem_cons_of_mem _ hin)
    · simp only [put, hk, if_false, List.mem_cons] at h
      rcases h with rfl | hin
      · exact Or.inr List.mem_cons_self
      · rcases ih hin with heq | hold
        · exact Or.inl heq
        · exact Or.inr (List.mem_cons_of_mem _ hold)

theorem mem_of_get? {ledger : Ledger κ ν} {key : κ} {value : ν}
    (h : ledger.get? key = some value) : (key, value) ∈ ledger := by
  induction ledger with
  | nil => simp [get?] at h
  | cons first rest ih =>
    obtain ⟨k, v⟩ := first
    by_cases hk : k = key
    · simp only [get?, hk, if_true, Option.some.injEq] at h
      simp [hk, h]
    · simp only [get?, hk, if_false] at h
      exact List.mem_cons_of_mem _ (ih h)

/-- In a ledger without repeated keys, what stands under a key is what is found there. -/
theorem get?_of_mem {ledger : Ledger κ ν} (h : ledger.keys.Nodup) {key : κ} {value : ν}
    (hmem : (key, value) ∈ ledger) : ledger.get? key = some value := by
  induction ledger with
  | nil => simp at hmem
  | cons first rest ih =>
    obtain ⟨k, v⟩ := first
    obtain ⟨hnew, hrest⟩ := List.nodup_cons.mp h
    rcases List.mem_cons.mp hmem with heq | hin
    · cases heq
      simp [get?]
    · have hne : k ≠ key := by
        intro heq
        subst heq
        exact hnew (List.mem_map.mpr ⟨(k, value), hin, rfl⟩)
      simp [get?, hne, ih hrest hin]

theorem has_iff {ledger : Ledger κ ν} {key : κ} : ledger.has key = true ↔ key ∈ ledger.keys := by
  induction ledger with
  | nil => simp [has, get?, keys]
  | cons first rest ih =>
    obtain ⟨k, v⟩ := first
    by_cases hk : k = key
    · simp [has, get?, keys, hk]
    · have hne : ¬ key = k := fun h => hk h.symm
      simp only [has, keys] at ih
      simp [has, get?, keys, hk, hne, ih]

/-- The entries of one ledger and then those of another under keys that the first one lacks have no
key twice. -/
theorem keys_append_new_nodup {first second : Ledger κ ν} (hfirst : first.keys.Nodup)
    (hsecond : second.keys.Nodup) :
    (first ++ second.filter fun e => !first.has e.1 : Ledger κ ν).keys.Nodup := by
  unfold keys at *
  rw [List.map_append, List.nodup_append]
  refine ⟨hfirst, hsecond.sublist (List.filter_sublist.map _), ?_⟩
  -- a key of the second ledger is kept only if the first one lacks it
  rintro k hk k' hk' rfl
  obtain ⟨e, he, rfl⟩ := List.mem_map.mp hk'
  have hnew := (List.mem_filter.mp he).2
  rw [has_iff.mpr hk] at hnew
  simp at hnew

end Ledger

end EntitySearch
