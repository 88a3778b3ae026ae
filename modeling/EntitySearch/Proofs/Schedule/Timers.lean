import EntitySearch.Schedule.Timers
import Mathlib
/-!
# What waits in the timers

Entries that rise and sink in the heap only change places, so setting a timer adds its entry and
taking timers from the root removes what is taken, whatever the moments are; moments that are not
numbers are no exception (`Timers.bag_push`, `Timers.bag_takeWhile`).
-/

namespace EntitySearch

namespace Timers

variable {τ : Type}

/-- The entries that wait, in no order. -/
def bag (t : Timers τ) : Multiset (Float × τ) := (t.entries.toList : Multiset (Float × τ))

/-! ## Changing places -/

theorem swap_perm (a : Array (Float × τ)) (i j : Nat) : (a.swapIfInBounds i j).Perm a := by
  rw [Array.swapIfInBounds_def]
  split
  · split
    · exact Array.swap_perm _ _
    · exact Array.Perm.refl _
  · exact Array.Perm.refl _

theorem rise_perm (a : Array (Float × τ)) (i : Nat) : (rise a i).Perm a := by
  fun_induction rise a i with
  | case1 a => exact Array.Perm.refl _
  | case2 a i _ entry _ above _ _ ih => exact ih.trans (swap_perm a _ _)
  | case3 => exact Array.Perm.refl _
  | case4 => exact Array.Perm.refl _

theorem sink_perm (a : Array (Float × τ)) (i : Nat) : (sink a i).1.Perm a := by
  fun_induction sink a i with
  | case1 a i _ ih => exact ih.trans (swap_perm a _ _)
  | case2 => exact Array.Perm.refl _

/-! ## Setting and taking timers -/

theorem bag_push (t : Timers τ) (entry : Float × τ) : (t.push entry).bag = entry ::ₘ t.bag := by
  have hperm := (rise_perm (t.entries.push entry) t.entries.size).toList
  rw [Array.toList_push] at hperm
  unfold bag push
  rw [Multiset.cons_coe, Multiset.coe_eq_coe]
  exact hperm.trans (List.perm_append_singleton entry t.entries.toList)

/-- Timers with some more set. -/
inductive Grows (t : Timers τ) : Timers τ → Prop
  | refl : Grows t t
  | push {t' : Timers τ} (entry : Float × τ) : Grows t t' → Grows t (t'.push entry)

theorem Grows.trans {t u v : Timers τ} (htu : Grows t u) (huv : Grows u v) : Grows t v := by
  induction huv with
  | refl => exact htu
  | push entry _ ih => exact ih.push entry

/-- Without the entry at the root the others are left. -/
theorem bag_dropFirst {t : Timers τ} {entry : Float × τ} (h : t.first? = some entry) :
    t.bag = entry ::ₘ t.dropFirst.bag := by
  obtain ⟨⟨items⟩⟩ := t
  have hhead : items[0]? = some entry := by simpa [first?] using h
  obtain ⟨rest, rfl⟩ : ∃ rest, items = entry :: rest := by
    cases items with
    | nil => simp at hhead
    | cons first rest =>
      simp only [List.getElem?_cons_zero, Option.some.injEq] at hhead
      exact ⟨rest, by rw [hhead]⟩
  -- what has moved to the root and sunk from there is the last entry
  have hmoved : ∀ last, (entry :: rest).getLast? = some last →
      ((entry :: rest).dropLast.set 0 last).Perm rest := by
    intro last hlast
    rcases List.eq_nil_or_concat rest with rfl | ⟨mid, final, rfl⟩
    · simp
    · rw [List.concat_eq_append, ← List.cons_append, List.getLast?_concat] at hlast
      rw [List.concat_eq_append, ← List.cons_append, List.dropLast_concat, List.set_cons_zero,
        Option.some.inj hlast]
      exact (List.perm_append_singleton last mid).symm
  unfold dropFirst
  split
  · rename_i hback
    simp [← Array.getLast?_toList] at hback
  · rename_i last hback
    have hlast : (entry :: rest).getLast? = some last := by
      simpa [← Array.getLast?_toList] using hback
    have hperm := (rise_perm (sink ((Array.mk (entry :: rest)).pop.setIfInBounds 0 last) 0).1
      (sink ((Array.mk (entry :: rest)).pop.setIfInBounds 0 last) 0).2).trans (sink_perm _ 0)
    have hrest := hperm.toList.trans (by simpa using hmoved last hlast)
    unfold bag
    simp only
    rw [Multiset.coe_eq_coe.mpr hrest]
    rfl

theorem bag_takeUpTo (p : Float × τ → Bool) (n : Nat) (t : Timers τ) :
    t.bag = (takeUpTo p n t).1 + (takeUpTo p n t).2.bag := by
  induction n generalizing t with
  | zero => simp [takeUpTo]
  | succ n ih =>
    unfold takeUpTo
    cases hfirst : t.first? with
    | none => simp
    | some entry =>
      by_cases hp : p entry = true
      · simp only [hp, if_true]
        rw [bag_dropFirst hfirst, ih t.dropFirst, ← Multiset.cons_coe, Multiset.cons_add]
      · simp [hp]

/-- What waits is what is taken and what is left. -/
theorem bag_takeWhile (p : Float × τ → Bool) (t : Timers τ) :
    t.bag = (t.takeWhile p).1 + (t.takeWhile p).2.bag :=
  bag_takeUpTo p t.entries.size t

theorem forall_mem_takeUpTo (p : Float × τ → Bool) (n : Nat) (t : Timers τ) :
    ∀ entry ∈ (takeUpTo p n t).1, p entry = true := by
  induction n generalizing t with
  | zero => simp [takeUpTo]
  | succ n ih =>
    unfold takeUpTo
    cases hfirst : t.first? with
    | none => simp
    | some entry =>
      by_cases hp : p entry = true
      · simp only [hp, if_true, List.mem_cons]
        rintro other (rfl | hother)
        · exact hp
        · exact ih _ other hother
      · simp [hp]

theorem forall_mem_takeWhile (p : Float × τ → Bool) (t : Timers τ) :
    ∀ entry ∈ (t.takeWhile p).1, p entry = true :=
  forall_mem_takeUpTo p t.entries.size t

theorem bag_eq_zero_of_first? {t : Timers τ} (h : t.first? = none) : t.bag = 0 := by
  obtain ⟨⟨items⟩⟩ := t
  cases items with
  | nil => rfl
  | cons first rest => simp [first?] at h

/-- An entry at the root that satisfies the test is taken. -/
theorem takeWhile_ne_nil {p : Float × τ → Bool} {t : Timers τ} {entry : Float × τ}
    (h : t.first? = some entry) (hp : p entry = true) : (t.takeWhile p).1 ≠ [] := by
  have hsize : t.entries.size ≠ 0 := by
    intro hzero
    simp [first?, Array.size_eq_zero_iff.mp hzero] at h
  obtain ⟨n, hn⟩ := Nat.exists_eq_succ_of_ne_zero hsize
  unfold takeWhile
  rw [hn]
  simp [takeUpTo, h, hp]

end Timers

end EntitySearch
