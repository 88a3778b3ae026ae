/-!
# Ledgers

A ledger is a list of keys with values that keeps the order in which keys were first entered.
Entering a value under a known key replaces the value where it stands; a key that was erased and is
entered again goes to the end. A look-up after an entry or an erasure is answered by `get?_put` and
`get?_erase`.
-/

namespace EntitySearch

/-- Keys with values, in the order in which the keys were first entered. -/
abbrev Ledger (κ ν : Type) : Type := List (κ × ν)

namespace Ledger

variable {κ ν : Type} [DecidableEq κ]

/-- The value under a key. -/
def get? : Ledger κ ν → κ → Option ν
  | [], _ => none
  | (k, v) :: rest, key => if k = key then some v else get? rest key

/-- Enters a value under a key. -/
def put : Ledger κ ν → κ → ν → Ledger κ ν
  | [], key, value => [(key, value)]
  | (k, v) :: rest, key, value =>
    if k = key then (k, value) :: rest else (k, v) :: put rest key value

/-- Removes a key with its value. -/
def erase (ledger : Ledger κ ν) (key : κ) : Ledger κ ν := ledger.filter (fun e => e.1 ≠ key)

/-- Whether a key has a value. -/
def has (ledger : Ledger κ ν) (key : κ) : Bool := (ledger.get? key).isSome

/-- The keys, in order. -/
def keys (ledger : Ledger κ ν) : List κ := ledger.map Prod.fst

/-- The ledger of a list of entries, the last value under a key counting. -/
def ofEntries (entries : List (κ × ν)) : Ledger κ ν :=
  entries.foldl (fun ledger e => ledger.put e.1 e.2) []

theorem get?_put (ledger : Ledger κ ν) (key other : κ) (value : ν) :
    (ledger.put key value).get? other =
      if key = other then some value else ledger.get? other := by
  induction ledger with
  | nil => simp [put, get?]
  | cons e rest ih =>
    obtain ⟨k, v⟩ := e
    by_cases hk : k = key
    · subst hk
      by_cases ho : k = other <;> simp [put, get?, ho]
    · by_cases ho : k = other
      · subst ho
        have : ¬ key = k := fun h => hk h.symm
        simp [put, get?, hk, this]
      · simp [put, get?, hk, ho, ih]

theorem get?_erase (ledger : Ledger κ ν) (key other : κ) :
    (ledger.erase key).get? other = if key = other then none else ledger.get? other := by
  induction ledger with
  | nil => simp [erase, get?]
  | cons e rest ih =>
    obtain ⟨k, v⟩ := e
    unfold erase at ih ⊢
    by_cases hk : k = key
    · subst hk
      by_cases ho : k = other
      · subst ho
        simpa using ih
      · simpa [get?, ho] using ih
    · by_cases ho : k = other
      · subst ho
        have : ¬ key = k := fun h => hk h.symm
        simp [get?, hk, this]
      · simpa [get?, hk, ho] using ih

end Ledger

end EntitySearch
