import EntitySearch.Proofs.Number.Comparison
import EntitySearch.Proofs.Schedule.Timers
/-!
# The order of the timers

As long as all moments are numbers, no entry of the heap is before the one above it
(`Timers.InOrder`). Setting a timer and taking timers from the root keep this order
(`Timers.InOrder.push`, `Timers.InOrder.takeWhile`), so the entry at the root is the first of all
(`Timers.InOrder.first`).

The order is stated on moments by their place, with a last moment for the places beyond the heap:
what is not there is in order below everything.
-/

namespace EntitySearch

namespace Timers

variable {τ : Type}

/-! ## Heaps as functions -/

section Places

variable {K : Type} [LinearOrder K] {m : ℕ → K} {i c : ℕ}

/-- The place above another; the root is above itself. -/
def above (i : ℕ) : ℕ := (i - 1) / 2

theorem above_lt (h : i ≠ 0) : above i < i := by
  unfold above
  omega

/-- Nothing is before what is above it. -/
def IsHeap (m : ℕ → K) : Prop := ∀ k, m (above k) ≤ m k

/-- Nothing is before what is above it, except perhaps at one place; and what is above this place is
not after what is below it. -/
structure HeapBut (m : ℕ → K) (i : ℕ) : Prop where
  others : ∀ k, k ≠ i → m (above k) ≤ m k
  around : i ≠ 0 → ∀ k, above k = i → m (above i) ≤ m k

/-- The same where the place may be after what is below it as well. -/
structure Gap (m : ℕ → K) (i : ℕ) : Prop where
  others : ∀ k, k ≠ i → above k ≠ i → m (above k) ≤ m k
  around : i ≠ 0 → ∀ k, above k = i → m (above i) ≤ m k

/-- The root comes first. -/
theorem IsHeap.root_le (h : IsHeap m) (k : ℕ) : m 0 ≤ m k := by
  induction k using Nat.strongRecOn with
  | ind k ih =>
    rcases eq_or_ne k 0 with rfl | hk
    · exact le_refl _
    · exact (ih (above k) (above_lt hk)).trans (h k)

/-- Where the exception is none, there is a heap. -/
theorem HeapBut.isHeap (h : HeapBut m i) (hi : m (above i) ≤ m i) : IsHeap m := by
  intro k
  rcases eq_or_ne k i with rfl | hk
  · exact hi
  · exact h.others k hk

/-- A gap with nothing before it below is an exception upwards only. -/
theorem Gap.heapBut (h : Gap m i) (hbelow : ∀ k, above k = i → k ≠ i → m i ≤ m k) :
    HeapBut m i := by
  refine ⟨?_, h.around⟩
  intro k hk
  by_cases hki : above k = i
  · rw [hki]
    exact hbelow k hki hk
  · exact h.others k hk hki

/-- Rising by one place moves the exception up. -/
theorem HeapBut.swap (h : HeapBut m i) (hi : i ≠ 0) (hlt : m i < m (above i)) :
    HeapBut (m ∘ Equiv.swap i (above i)) (above i) := by
  have hup := above_lt hi
  have hat : (m ∘ Equiv.swap i (above i)) i = m (above i) := by simp
  have habove : (m ∘ Equiv.swap i (above i)) (above i) = m i := by simp
  have helse : ∀ k, k ≠ i → k ≠ above i → (m ∘ Equiv.swap i (above i)) k = m k := by
    intro k hk hk'
    simp [Equiv.swap_apply_of_ne_of_ne hk hk']
  constructor
  · intro k hk
    rcases eq_or_ne k i with rfl | hki
    · rw [habove, hat]
      exact hlt.le
    · rw [helse k hki hk]
      -- below the old place, beside it, or elsewhere
      rcases eq_or_ne (above k) i with hbelow | hkb
      · rw [hbelow, hat]
        exact h.around hi k hbelow
      · rcases eq_or_ne (above k) (above i) with hbeside | hks
        · rw [hbeside, habove]
          exact hlt.le.trans (hbeside ▸ h.others k hki)
        · rw [helse _ hkb hks]
          exact h.others k hki
  · intro hroot k hk
    have htop := above_lt hroot
    rw [helse (above (above i)) (by omega) (by omega)]
    have hstep : m (above (above i)) ≤ m (above i) := h.others (above i) (by omega)
    rcases eq_or_ne k i with rfl | hki
    · rw [hat]
      exact hstep
    · have hpos : k ≠ above i := by
        rintro rfl
        omega
      rw [helse k hki hpos]
      exact hstep.trans (hk ▸ h.others k hki)

/-- Sinking by one place, to the first of those below, moves the gap down. -/
theorem Gap.swap (h : Gap m i) (hc : above c = i) (hic : i < c)
    (hfirst : ∀ k, above k = i → k ≠ i → m c ≤ m k) : Gap (m ∘ Equiv.swap i c) c := by
  have hat : (m ∘ Equiv.swap i c) i = m c := by simp
  have helse : ∀ k, k ≠ i → k ≠ c → (m ∘ Equiv.swap i c) k = m k := by
    intro k hk hk'
    simp [Equiv.swap_apply_of_ne_of_ne hk hk']
  constructor
  · intro k hk hkc
    rcases eq_or_ne k i with rfl | hki
    · rcases eq_or_ne k 0 with rfl | hroot
      · exact le_refl _
      · have hup := above_lt hroot
        rw [hat, helse (above k) (by omega) (by omega)]
        exact h.around hroot c hc
    · rw [helse k hki hk]
      rcases eq_or_ne (above k) i with hbelow | hkb
      · rw [hbelow, hat]
        exact hfirst k hbelow hki
      · rw [helse _ hkb hkc]
        exact h.others k hki hkb
  · intro hroot k hk
    have hck : c ≤ k := by
      unfold above at hk
      omega
    have hne : k ≠ c := by
      rintro rfl
      have := above_lt hroot
      omega
    rw [hc, hat, helse k (by omega) hne]
    exact hk ▸ h.others k (by omega) (by omega)

end Places

/-! ## Moments by their place -/

/-- The moment at a place of the heap; what is not there comes last. -/
def moment (a : Array (Float × τ)) (i : ℕ) : WithTop (ℤ ×ₗ ℤ ×ₗ ℤ) :=
  match a[i]? with
  | some entry => (Number.place entry.1 : WithTop _)
  | none => ⊤

/-- All moments are numbers. -/
def Numbers (a : Array (Float × τ)) : Prop := ∀ entry ∈ a, Scalar.isOrderly entry.1 = true

section Moments

variable {a : Array (Float × τ)} {i j : ℕ} {entry other : Float × τ}

theorem moment_of_some (h : a[i]? = some entry) :
    moment a i = (Number.place entry.1 : WithTop _) := by
  unfold moment
  rw [h]

theorem moment_of_none (h : a[i]? = none) : moment a i = ⊤ := by
  unfold moment
  rw [h]

/-- Comparing moments is comparing their places. -/
theorem moment_lt_iff (ha : Numbers a) (hi : a[i]? = some entry) (hj : a[j]? = some other) :
    moment a i < moment a j ↔ entry.1 < other.1 := by
  have hless := Number.less_eq_place (ha _ (Array.mem_of_getElem? hi))
    (ha _ (Array.mem_of_getElem? hj))
  rw [moment_of_some hi, moment_of_some hj, WithTop.coe_lt_coe]
  have hfloat : Scalar.less entry.1 other.1 = decide (entry.1 < other.1) := rfl
  rw [hfloat] at hless
  exact (decide_eq_decide.mp hless).symm

theorem moment_swap (hi : i < a.size) (hj : j < a.size) :
    moment (a.swapIfInBounds i j) = moment a ∘ Equiv.swap i j := by
  funext k
  have hentries : (a.swapIfInBounds i j)[k]? = a[Equiv.swap i j k]? := by
    rw [Array.swapIfInBounds_def, dif_pos hi, dif_pos hj, Array.getElem?_swap]
    rcases eq_or_ne k i with rfl | hki
    · rcases eq_or_ne k j with rfl | hkj
      · simp
      · simp [hkj.symm]
    · rcases eq_or_ne k j with rfl | hkj
      · simp
      · simp [Equiv.swap_apply_of_ne_of_ne hki hkj, hki.symm, hkj.symm]
  unfold moment
  rw [hentries]
  rfl

end Moments

theorem Numbers.perm {a b : Array (Float × τ)} (hb : Numbers b) (h : a.Perm b) : Numbers a :=
  fun entry hentry => hb entry (h.mem_iff.mp hentry)

/-! ## Rising and sinking -/

/-- An entry that rises comes to rest where it is not before the one above it. -/
theorem isHeap_rise (a : Array (Float × τ)) (i : ℕ) (ha : Numbers a) (h : HeapBut (moment a) i) :
    IsHeap (moment (rise a i)) := by
  fun_induction rise a i with
  | case1 a => exact h.isHeap (le_refl _)
  | case2 a i hi top entry htop hentry hlt ih =>
    have hsizes : i < a.size ∧ above i < a.size :=
      ⟨Array.getElem?_eq_some_iff.mp hentry |>.1, Array.getElem?_eq_some_iff.mp htop |>.1⟩
    refine ih (ha.perm (swap_perm _ _ _)) ?_
    have hmoments := moment_swap hsizes.1 hsizes.2
    unfold above at hmoments
    rw [hmoments]
    exact h.swap hi ((moment_lt_iff ha hentry htop).mpr hlt)
  | case3 a i hi top entry htop hentry hlt =>
    exact h.isHeap (not_lt.mp fun hless => hlt ((moment_lt_iff ha hentry htop).mp hless))
  | case4 a i hi hnone =>
    -- one of the two places is beyond the heap, the lower one then
    refine h.isHeap ?_
    cases hentry : a[i]? with
    | none => exact (moment_of_none hentry).symm ▸ le_top
    | some entry =>
      cases htop : a[(i - 1) / 2]? with
      | some top => exact absurd htop (hnone entry top hentry)
      | none =>
        have hin := (Array.getElem?_eq_some_iff.mp hentry).1
        have hout := Array.getElem?_eq_none_iff.mp htop
        omega

/-- Of the two below a place, none is before the earlier. -/
theorem moment_earlier_le {a : Array (Float × τ)} (ha : Numbers a) (i : ℕ) {k : ℕ}
    (hk : above k = i) (hne : k ≠ i) : moment a (earlier a i) ≤ moment a k := by
  have hbelow : k = 2 * i + 1 ∨ k = 2 * i + 2 := by
    unfold above at hk
    omega
  unfold earlier
  split
  · rename_i left right hleft hright
    have hiff := moment_lt_iff ha hleft hright
    split
    · rename_i hlt
      rcases hbelow with rfl | rfl
      · exact le_refl _
      · exact (hiff.mpr hlt).le
    · rename_i hlt
      rcases hbelow with rfl | rfl
      · exact not_lt.mp fun hless => hlt (hiff.mp hless)
      · exact le_refl _
  · -- there is no entry on the right
    rename_i hnone
    rcases hbelow with rfl | rfl
    · exact le_refl _
    · cases hright : a[2 * i + 2]? with
      | none => exact (moment_of_none hright).symm ▸ le_top
      | some right =>
        cases hleft : a[2 * i + 1]? with
        | some left => exact absurd hright (hnone left right hleft)
        | none =>
          have hin := (Array.getElem?_eq_some_iff.mp hright).1
          have hout := Array.getElem?_eq_none_iff.mp hleft
          omega

theorem above_earlier (a : Array (Float × τ)) (i : ℕ) : above (earlier a i) = i := by
  unfold earlier above
  split
  · split <;> omega
  · omega

theorem earlier_lt_size {a : Array (Float × τ)} {i : ℕ} (h : 2 * i + 1 < a.size) :
    earlier a i < a.size := by
  unfold earlier
  split
  · rename_i left right hleft hright
    have hin := (Array.getElem?_eq_some_iff.mp hright).1
    split <;> omega
  · exact h

/-- An entry sinks to a place with nothing below it, and leaves an exception there. -/
theorem heapBut_sink (a : Array (Float × τ)) (i : ℕ) (ha : Numbers a) (h : Gap (moment a) i) :
    HeapBut (moment (sink a i).1) (sink a i).2 := by
  fun_induction sink a i with
  | case1 a i hin ih =>
    refine ih (ha.perm (swap_perm _ _ _)) ?_
    rw [moment_swap (by omega) (earlier_lt_size hin)]
    exact h.swap (above_earlier a i) (lt_earlier a i) fun k hk hne =>
      moment_earlier_le ha i hk hne
  | case2 a i hout =>
    refine h.heapBut ?_
    intro k hk hne
    have hbeyond : a[k]? = none := by
      rw [Array.getElem?_eq_none_iff]
      unfold above at hk
      omega
    exact (moment_of_none hbeyond).symm ▸ le_top

/-! ## Timers in order -/

/-- All moments are numbers, and none is before the one above it. -/
structure InOrder (t : Timers τ) : Prop where
  numbers : Numbers t.entries
  heap : IsHeap (moment t.entries)

namespace InOrder

variable {t : Timers τ}

theorem empty : InOrder ({} : Timers τ) := by
  constructor
  · intro entry hentry
    simp at hentry
  · intro k
    rw [moment_of_none (by simp), moment_of_none (by simp)]

theorem push (h : t.InOrder) {entry : Float × τ} (hentry : Scalar.isOrderly entry.1 = true) :
    (t.push entry).InOrder := by
  have hnumbers : Numbers (t.entries.push entry) := by
    intro other hother
    rcases Array.mem_push.mp hother with hold | rfl
    · exact h.numbers other hold
    · exact hentry
  have hmoment : ∀ k, k ≠ t.entries.size →
      moment (t.entries.push entry) k = moment t.entries k := by
    intro k hk
    unfold moment
    rw [Array.getElem?_push, if_neg hk]
  refine ⟨hnumbers.perm (rise_perm _ _), isHeap_rise _ _ hnumbers ⟨?_, ?_⟩⟩
  · intro k hk
    rw [hmoment k hk]
    by_cases hup : above k = t.entries.size
    · -- what is below the new entry is beyond the heap
      have hbeyond : t.entries[k]? = none := by
        rw [Array.getElem?_eq_none_iff]
        unfold above at hup
        omega
      exact (moment_of_none hbeyond).symm ▸ le_top
    · rw [hmoment _ hup]
      exact h.heap k
  · intro hroot k hk
    have hne : k ≠ t.entries.size := by
      rintro rfl
      have := above_lt hroot
      omega
    have hbeyond : t.entries[k]? = none := by
      rw [Array.getElem?_eq_none_iff]
      unfold above at hk
      omega
    rw [hmoment k hne]
    exact (moment_of_none hbeyond).symm ▸ le_top

theorem dropFirst (h : t.InOrder) : t.dropFirst.InOrder := by
  unfold Timers.dropFirst
  split
  · exact h
  · rename_i last hlast
    have hmem : last ∈ t.entries := by
      rw [Array.back?_eq_getElem?] at hlast
      exact Array.mem_of_getElem? hlast
    have hnumbers : Numbers (t.entries.pop.setIfInBounds 0 last) := by
      intro entry hentry
      rcases Array.mem_or_eq_of_mem_setIfInBounds hentry with hold | rfl
      · rw [Array.mem_iff_getElem?] at hold
        obtain ⟨k, hk⟩ := hold
        rw [Array.getElem?_pop] at hk
        split at hk
        · exact h.numbers entry (Array.mem_of_getElem? hk)
        · cases hk
      · exact h.numbers entry hmem
    have hmoment : ∀ k, k ≠ 0 → k < t.entries.size - 1 →
        moment (t.entries.pop.setIfInBounds 0 last) k = moment t.entries k := by
      intro k hk hin
      unfold moment
      rw [Array.getElem?_setIfInBounds_ne (Ne.symm hk), Array.getElem?_pop, if_pos hin]
    have hgap : Gap (moment (t.entries.pop.setIfInBounds 0 last)) 0 := by
      refine ⟨?_, fun hroot => absurd rfl hroot⟩
      intro k hk hup
      by_cases hin : k < t.entries.size - 1
      · have hlt := above_lt hk
        rw [hmoment k hk hin, hmoment _ hup (by omega)]
        exact h.heap k
      · have hbeyond : (t.entries.pop.setIfInBounds 0 last)[k]? = none := by
          rw [Array.getElem?_eq_none_iff, Array.size_setIfInBounds, Array.size_pop]
          omega
        exact (moment_of_none hbeyond).symm ▸ le_top
    have hsunk : Numbers (sink (t.entries.pop.setIfInBounds 0 last) 0).1 :=
      hnumbers.perm (sink_perm _ _)
    exact ⟨hsunk.perm (rise_perm _ _), isHeap_rise _ _ hsunk (heapBut_sink _ _ hnumbers hgap)⟩

theorem takeUpTo (h : t.InOrder) (p : Float × τ → Bool) (n : ℕ) :
    (Timers.takeUpTo p n t).2.InOrder := by
  induction n generalizing t with
  | zero => exact h
  | succ n ih =>
    unfold Timers.takeUpTo
    split
    · exact h
    · split
      · exact ih h.dropFirst
      · exact h

theorem takeWhile (h : t.InOrder) (p : Float × τ → Bool) : (t.takeWhile p).2.InOrder :=
  h.takeUpTo p t.entries.size

/-- The entry at the root is not after any other. -/
theorem first (h : t.InOrder) {entry other : Float × τ} (hfirst : t.first? = some entry)
    (hother : other ∈ t.bag) : ¬ other.1 < entry.1 := by
  intro hlt
  have hmem : other ∈ t.entries := Array.mem_toList_iff.mp (Multiset.mem_coe.mp hother)
  obtain ⟨k, hk, hat⟩ := Array.mem_iff_getElem.mp hmem
  have hroot := h.heap.root_le k
  have hless := (moment_lt_iff h.numbers (Array.getElem?_eq_some_iff.mpr ⟨hk, hat⟩) hfirst).mpr hlt
  exact absurd hroot (not_le.mpr hless)

end InOrder

end Timers

end EntitySearch
