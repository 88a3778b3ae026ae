import EntitySearch.Proofs.Ranking.Selection
/-!
# Stable ranking

Ranking keeps items with equal keys in the order in which they came (`insertionSort_before`). It
therefore does not matter whether items are left out before ranking or after it
(`sortDescending_filter`).
-/

namespace EntitySearch

variable {β γ κ ι : Type} [LinearOrder ι]

/-! ## Sorting by places -/

section Places

variable (place : β → ι)

/-- An item comes before another: it has the higher place or, at the same place, came earlier. -/
def Before (earlier : β → β → Prop) (a b : β) : Prop :=
  place b < place a ∨ place a = place b ∧ earlier a b

variable {place}

theorem Before.notBelow {earlier : β → β → Prop} {a b : β} (h : Before place earlier a b) :
    NotBelow place a b := by
  rcases h with hless | ⟨heq, -⟩
  · exact hless.le
  · exact heq.ge

/-- Of two items at most one comes before the other. -/
theorem Before.asymm {earlier : β → β → Prop} (hearlier : ∀ a b, earlier a b → ¬ earlier b a)
    {a b : β} (h : Before place earlier a b) : ¬ Before place earlier b a := by
  rcases h with hless | ⟨heq, hfirst⟩
  · rintro (hgreater | ⟨heq, -⟩)
    · exact lt_asymm hless hgreater
    · exact hless.ne heq
  · rintro (hgreater | ⟨-, hlast⟩)
    · exact hgreater.ne heq
    · exact hearlier a b hfirst hlast

/-- An item that came earlier than all others is put in front of those at its place. -/
theorem orderedInsert_before {earlier : β → β → Prop} {x : β} {items : List β}
    (hx : ∀ y ∈ items, earlier x y) (hitems : items.Pairwise (Before place earlier)) :
    (items.orderedInsert (NotBelow place) x).Pairwise (Before place earlier) := by
  induction items with
  | nil => simp
  | cons y rest ih =>
    obtain ⟨hfirst, hrest⟩ := List.pairwise_cons.mp hitems
    by_cases hxy : NotBelow place x y
    · rw [List.orderedInsert_cons_of_le _ rest hxy]
      refine List.pairwise_cons.mpr ⟨?_, hitems⟩
      intro z hz
      -- what stands behind the first item is not above it
      have hxz : NotBelow place x z := by
        rcases List.mem_cons.mp hz with rfl | hin
        · exact hxy
        · exact (hfirst z hin).notBelow.trans hxy
      rcases lt_or_eq_of_le hxz with hless | heq
      · exact Or.inl hless
      · exact Or.inr ⟨heq.symm, hx z hz⟩
    · rw [List.orderedInsert_of_not_le _ rest hxy]
      refine List.pairwise_cons.mpr ⟨?_, ih (fun z hz => hx z (List.mem_cons_of_mem _ hz)) hrest⟩
      intro z hz
      rcases List.mem_cons.mp ((List.perm_orderedInsert _ x rest).mem_iff.mp hz) with rfl | hin
      · exact Or.inl (not_le.mp hxy)
      · exact hfirst z hin

/-- Sorting keeps the items at one place in their order. -/
theorem insertionSort_before {earlier : β → β → Prop} {items : List β}
    (h : items.Pairwise earlier) :
    (items.insertionSort (NotBelow place)).Pairwise (Before place earlier) := by
  induction items with
  | nil => simp
  | cons x rest ih =>
    obtain ⟨hfirst, hrest⟩ := List.pairwise_cons.mp h
    rw [List.insertionSort_cons]
    refine orderedInsert_before ?_ (ih hrest)
    intro y hy
    exact hfirst y ((List.perm_insertionSort _ rest).mem_iff.mp hy)

theorem filter_orderedInsert (keep : β → Bool) (x : β) {items : List β}
    (hitems : items.Pairwise (NotBelow place)) :
    (items.orderedInsert (NotBelow place) x).filter keep =
      if keep x then (items.filter keep).orderedInsert (NotBelow place) x
      else items.filter keep := by
  induction items with
  | nil => cases hx : keep x <;> simp [hx]
  | cons y rest ih =>
    obtain ⟨hfirst, hrest⟩ := List.pairwise_cons.mp hitems
    by_cases hxy : NotBelow place x y
    · rw [List.orderedInsert_cons_of_le _ rest hxy, List.filter_cons]
      split
      · -- whichever item is now the first is not above the inserted one
        have hall : ∀ z ∈ (y :: rest).filter keep, NotBelow place x z := by
          intro z hz
          rcases List.mem_cons.mp (List.mem_of_mem_filter hz) with rfl | hin
          · exact hxy
          · exact (hfirst z hin).trans hxy
        cases hkept : (y :: rest).filter keep with
        | nil => simp
        | cons z others =>
          rw [hkept] at hall
          rw [List.orderedInsert_cons_of_le _ others (hall z List.mem_cons_self)]
      · rfl
    · rw [List.orderedInsert_of_not_le _ rest hxy, List.filter_cons, ih hrest, List.filter_cons]
      split
      · split
        · rw [List.orderedInsert_of_not_le _ _ hxy]
        · rfl
      · rfl

/-- Items may be left out before or after sorting. -/
theorem filter_insertionSort (keep : β → Bool) (items : List β) :
    (items.insertionSort (NotBelow place)).filter keep =
      (items.filter keep).insertionSort (NotBelow place) := by
  induction items with
  | nil => rfl
  | cons x rest ih =>
    have hsorted := List.pairwise_insertionSort (NotBelow place) rest
    rw [List.insertionSort_cons, filter_orderedInsert keep x hsorted, List.filter_cons, ih]
    split
    · rw [List.insertionSort_cons]
    · rfl

end Places

/-! ## Ranking -/

section Ranking

variable {less : κ → κ → Bool} {orderly : κ → Bool} {key : β → κ} {items : List β}

/-- What is made of items is ranked like the items. -/
theorem sortDescending_map (f : γ → β) {items : List γ}
    (horderly : ∀ x ∈ items, orderly (key (f x)) = true) :
    sortDescending less orderly key (items.map f) =
      (sortDescending less orderly (fun x => key (f x)) items).map f := by
  have hall : (items.all fun x => orderly (key (f x))) = true := List.all_eq_true.mpr horderly
  have hall' : ((items.map f).all fun x => orderly (key x)) = true := by simpa using horderly
  unfold sortDescending
  rw [if_pos hall, if_pos hall']
  have hsame : (items.mergeSort fun a b => !less (key (f a)) (key (f b))).map f =
      (items.map f).mergeSort fun a b => !less (key a) (key b) :=
    List.map_mergeSort fun _ _ _ _ => rfl
  exact hsame.symm

/-- Items that correspond to others are ranked like these, if their keys are compared by the places
of the others. -/
theorem forall₂_sortDescending {R : β → γ → Prop} {place : γ → ι} {others : List γ}
    (h : List.Forall₂ R items others) (horderly : ∀ x ∈ items, orderly (key x) = true)
    (hless : ∀ a a' b b', R a a' → R b b' → less (key a) (key b) = decide (place a' < place b')) :
    List.Forall₂ R (sortDescending less orderly key items)
      (others.insertionSort (NotBelow place)) := by
  -- both lists are made of the list of corresponding pairs
  obtain ⟨hlength, hpairs⟩ := List.forall₂_iff_zip.mp h
  have hitems : (items.zip others).map Prod.fst = items := List.map_fst_zip hlength.le
  have hothers : (items.zip others).map Prod.snd = others := List.map_snd_zip hlength.ge
  generalize items.zip others = pairs at hpairs hitems hothers
  subst hitems hothers
  have hall : ∀ p ∈ pairs, R p.1 p.2 := fun p hp => hpairs hp
  have hsorted : sortDescending less orderly (fun p : β × γ => key p.1) pairs =
      pairs.insertionSort (NotBelow fun p => place p.2) :=
    sortDescending_eq_of (fun p hp => horderly _ (List.mem_map_of_mem hp))
      fun p hp q hq => hless _ _ _ _ (hall p hp) (hall q hq)
  have hsecond : (pairs.map Prod.snd).insertionSort (NotBelow place) =
      (pairs.insertionSort (NotBelow fun p => place p.2)).map Prod.snd :=
    (List.map_insertionSort _ _ Prod.snd pairs fun _ _ _ _ => Iff.rfl).symm
  rw [sortDescending_map Prod.fst fun p hp => horderly _ (List.mem_map_of_mem hp), hsorted,
    hsecond, List.forall₂_map_left_iff, List.forall₂_map_right_iff, List.forall₂_same]
  intro p hp
  exact hall p ((List.perm_insertionSort _ pairs).mem_iff.mp hp)

/-- Items may be left out before or after ranking. -/
theorem sortDescending_filter {place : κ → ι} (hless : GoesBy less orderly place)
    (horderly : ∀ x ∈ items, orderly (key x) = true) (keep : β → Bool) :
    (sortDescending less orderly key items).filter keep =
      sortDescending less orderly key (items.filter keep) := by
  have hkept : ∀ x ∈ items.filter keep, orderly (key x) = true := fun x hx =>
    horderly x (List.mem_of_mem_filter hx)
  rw [sortDescending_eq hless key horderly, sortDescending_eq hless key hkept,
    filter_insertionSort]

/-- Of two items, one that comes first and is not below the other is ranked before it. -/
theorem pair_sublist_sortDescending {place : κ → ι} (hless : GoesBy less orderly place)
    (horderly : ∀ x ∈ items, orderly (key x) = true) {a b : β}
    (hab : less (key a) (key b) = false) (h : [a, b].Sublist items) :
    [a, b].Sublist (sortDescending less orderly key items) := by
  have ha : orderly (key a) = true := horderly a (h.subset (by simp))
  have hb : orderly (key b) = true := horderly b (h.subset (by simp))
  rw [hless _ _ ha hb, decide_eq_false_iff_not, not_lt] at hab
  rw [sortDescending_eq hless key horderly]
  exact List.pair_sublist_insertionSort hab h

/-- An item that is above another is ranked before it. -/
theorem above_sublist_sortDescending {place : κ → ι} (hless : GoesBy less orderly place)
    (horderly : ∀ x ∈ items, orderly (key x) = true) {a b : β} (ha : a ∈ items) (hb : b ∈ items)
    (hba : less (key b) (key a) = true) :
    [a, b].Sublist (sortDescending less orderly key items) := by
  have hsorted := pairwise_sortDescending hless key horderly
  have hperm := sortDescending_perm less orderly key items
  obtain ⟨front, back, hparts⟩ := List.append_of_mem (hperm.mem_iff.mpr ha)
  have hin := hperm.mem_iff.mpr hb
  rw [hparts] at hsorted hin ⊢
  rcases List.mem_append.mp hin with hfront | hrest
  · -- nothing that stands before the upper item is below it
    have hnot := (List.pairwise_append.mp hsorted).2.2 b hfront a List.mem_cons_self
    rw [hba] at hnot
    cases hnot
  · rcases List.mem_cons.mp hrest with rfl | hback
    · rw [hless _ _ (horderly b hb) (horderly b hb), decide_eq_true_iff] at hba
      exact absurd hba (lt_irrefl _)
    · exact ((List.singleton_sublist.mpr hback).cons_cons a).trans
        (List.sublist_append_right front _)

end Ranking

end EntitySearch
