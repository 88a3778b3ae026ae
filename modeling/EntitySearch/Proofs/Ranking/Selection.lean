import EntitySearch.Proofs.Number.Comparison
import EntitySearch.Proofs.Ranking.Rearrangement
/-!
# Cutting before ranking

Ranking the first items of a list gives the beginning of the ranked list exactly if no item that was
left out comes before one that was kept (`sortDescending_cut_prefix_iff`). This holds of keys that
are compared by their places in a linear order (`GoesBy`), as scores with times and the keys of the
types are.
-/

namespace EntitySearch

variable {β κ ι : Type} [LinearOrder ι]

/-- Keys are compared by their places in a linear order, as far as they can be compared. -/
def GoesBy (less : κ → κ → Bool) (orderly : κ → Bool) (place : κ → ι) : Prop :=
  ∀ a b, orderly a = true → orderly b = true → less a b = decide (place a < place b)

/-! ## Sorting by places -/

section Places

variable (place : β → ι)

/-- Whether an item may stand in front of another. -/
abbrev NotBelow (a b : β) : Prop := place b ≤ place a

theorem pairwise_mergeSort_notBelow (items : List β) :
    (items.mergeSort fun a b => decide (NotBelow place a b)).Pairwise (NotBelow place) := by
  have hsorted := @List.pairwise_mergeSort β (fun a b => decide (NotBelow place a b))
    (by simpa using fun a b c hab hbc => le_trans hbc hab)
    (by simpa using fun a b => le_total (place b) (place a)) items
  simpa using hsorted

/-- An item that is not below any item of a second list is put into the first. -/
theorem orderedInsert_append {x : β} {front back : List β}
    (h : ∀ y ∈ back, NotBelow place x y) :
    (front ++ back).orderedInsert (NotBelow place) x =
      front.orderedInsert (NotBelow place) x ++ back := by
  induction front with
  | nil =>
    cases back with
    | nil => rfl
    | cons y back => exact List.orderedInsert_cons_of_le _ back (h y List.mem_cons_self)
  | cons z front ih =>
    by_cases hz : NotBelow place x z
    · simp [hz]
    · simp [hz, ih]

/-- Sorting inserts the first item into the others, sorted. -/
theorem mergeSort_notBelow_cons (x : β) (items : List β) :
    ((x :: items).mergeSort fun a b => decide (NotBelow place a b)) =
      (items.mergeSort fun a b => decide (NotBelow place a b)).orderedInsert (NotBelow place) x := by
  obtain ⟨above, others, hsort, hrest, habove⟩ :=
    @List.mergeSort_cons β (fun a b => decide (NotBelow place a b))
      (by simpa using fun a b c hab hbc => le_trans hbc hab)
      (by simpa using fun a b => le_total (place b) (place a)) x items
  have hsorted := pairwise_mergeSort_notBelow place (x :: items)
  rw [hsort] at hsorted ⊢
  have hothers : ∀ y ∈ others, NotBelow place x y :=
    (List.pairwise_cons.mp (List.pairwise_append.mp hsorted).2.1).1
  have hinsert : above.orderedInsert (NotBelow place) x = above ++ [x] := by
    have htake : above.takeWhile (fun y => decide ¬ NotBelow place x y) = above :=
      List.takeWhile_eq_self_iff.mpr fun y hy => by simpa using habove y hy
    have hdrop : above.dropWhile (fun y => decide ¬ NotBelow place x y) = [] :=
      List.dropWhile_eq_nil_iff.mpr fun y hy => by simpa using habove y hy
    rw [List.orderedInsert_eq_take_drop, htake, hdrop]
  rw [hrest, orderedInsert_append place hothers, hinsert, List.append_assoc, List.singleton_append]

theorem mergeSort_eq_insertionSort_notBelow (items : List β) :
    (items.mergeSort fun a b => decide (NotBelow place a b)) =
      items.insertionSort (NotBelow place) := by
  induction items with
  | nil => simp
  | cons x items ih => rw [mergeSort_notBelow_cons, ih, List.insertionSort_cons]

theorem insertionSort_append {front back : List β}
    (h : ∀ x ∈ front, ∀ y ∈ back, NotBelow place x y) :
    (front ++ back).insertionSort (NotBelow place) =
      front.insertionSort (NotBelow place) ++ back.insertionSort (NotBelow place) := by
  induction front with
  | nil => rfl
  | cons x front ih =>
    have hfront := ih fun z hz => h z (List.mem_cons_of_mem _ hz)
    have hback : ∀ y ∈ back.insertionSort (NotBelow place), NotBelow place x y := fun y hy =>
      h x List.mem_cons_self y ((List.perm_insertionSort _ back).mem_iff.mp hy)
    rw [List.cons_append, List.insertionSort_cons, hfront, orderedInsert_append place hback,
      List.insertionSort_cons]

end Places

/-! ## Ranking -/

/-- Items are ranked by their places, stably, if their keys are compared by these places. -/
theorem sortDescending_eq_of {less : κ → κ → Bool} {orderly : κ → Bool} {key : β → κ}
    {items : List β} {place : β → ι} (horderly : ∀ x ∈ items, orderly (key x) = true)
    (hless : ∀ a ∈ items, ∀ b ∈ items, less (key a) (key b) = decide (place a < place b)) :
    sortDescending less orderly key items = items.insertionSort (NotBelow place) := by
  have hall : (items.all fun x => orderly (key x)) = true := List.all_eq_true.mpr horderly
  unfold sortDescending
  rw [if_pos hall, ← mergeSort_eq_insertionSort_notBelow]
  have hcompare : ∀ a ∈ items, ∀ b ∈ items, (!less (key a) (key b)) =
      decide (NotBelow place a b) := by
    intro a ha b hb
    rw [hless a ha b hb, ← decide_not]
    simp
  simpa using List.map_mergeSort (f := id) hcompare

section Ranking

variable {less : κ → κ → Bool} {orderly : κ → Bool} {place : κ → ι}
  (hless : GoesBy less orderly place) (key : β → κ)

include hless

/-- Items whose keys can be compared are ranked by their places, stably. -/
theorem sortDescending_eq {items : List β} (horderly : ∀ x ∈ items, orderly (key x) = true) :
    sortDescending less orderly key items =
      items.insertionSort (NotBelow fun x => place (key x)) :=
  sortDescending_eq_of horderly fun a ha b hb => hless _ _ (horderly a ha) (horderly b hb)

/-- Items of which none comes before one in front of it stay as they are. -/
theorem sortDescending_eq_self {items : List β} (horderly : ∀ x ∈ items, orderly (key x) = true)
    (hranked : items.Pairwise fun a b => less (key a) (key b) = false) :
    sortDescending less orderly key items = items := by
  rw [sortDescending_eq hless key horderly]
  refine List.Pairwise.insertionSort_eq (hranked.imp_of_mem fun ha hb hab => ?_)
  rwa [hless _ _ (horderly _ ha) (horderly _ hb), decide_eq_false_iff_not, not_lt] at hab

/-- No ranked item comes before one that stands in front of it. -/
theorem pairwise_sortDescending {items : List β} (horderly : ∀ x ∈ items, orderly (key x) = true) :
    (sortDescending less orderly key items).Pairwise fun a b => less (key a) (key b) = false := by
  have hsorted := List.pairwise_insertionSort (NotBelow fun x => place (key x)) items
  have hmem : ∀ x ∈ items.insertionSort (NotBelow fun x => place (key x)), orderly (key x) = true :=
    fun x hx => horderly x ((List.perm_insertionSort _ items).mem_iff.mp hx)
  rw [sortDescending_eq hless key horderly]
  refine hsorted.imp_of_mem fun ha hb hab => ?_
  rw [hless _ _ (hmem _ ha) (hmem _ hb), decide_eq_false_iff_not, not_lt]
  exact hab

/-- The first items of a list, ranked, are the first of the ranked list exactly if no item behind
them comes before one of them. -/
theorem sortDescending_append_prefix_iff {front back : List β}
    (horderly : ∀ x ∈ front ++ back, orderly (key x) = true) :
    sortDescending less orderly key front <+: sortDescending less orderly key (front ++ back) ↔
      ∀ x ∈ front, ∀ y ∈ back, less (key x) (key y) = false := by
  have hfront : ∀ x ∈ front, orderly (key x) = true := fun x hx =>
    horderly x (List.mem_append_left back hx)
  have hback : ∀ y ∈ back, orderly (key y) = true := fun y hy =>
    horderly y (List.mem_append_right front hy)
  have hplaces : (∀ x ∈ front, ∀ y ∈ back, less (key x) (key y) = false) ↔
      ∀ x ∈ front, ∀ y ∈ back, NotBelow (fun x => place (key x)) x y := by
    refine forall₂_congr fun x hx => forall₂_congr fun y hy => ?_
    rw [hless _ _ (hfront x hx) (hback y hy), decide_eq_false_iff_not, not_lt]
  rw [hplaces, sortDescending_eq hless key hfront, sortDescending_eq hless key horderly]
  constructor
  · rintro ⟨others, hothers⟩ x hx y hy
    -- what stands behind the first items in the ranked list are the other items
    have hperm : others.Perm back := by
      rw [← List.perm_append_left_iff front]
      have hfirst := List.perm_insertionSort (NotBelow fun x => place (key x)) front
      have hall := List.perm_insertionSort (NotBelow fun x => place (key x)) (front ++ back)
      rw [← hothers] at hall
      exact (hfirst.symm.append_right others).trans hall
    have hsorted := List.pairwise_insertionSort (NotBelow fun x => place (key x)) (front ++ back)
    rw [← hothers] at hsorted
    exact (List.pairwise_append.mp hsorted).2.2 x
      ((List.perm_insertionSort _ front).mem_iff.mpr hx) y (hperm.mem_iff.mpr hy)
  · intro h
    rw [insertionSort_append _ h]
    exact List.prefix_append _ _

/-- Cutting a list and then ranking it gives the beginning of the ranked list exactly if no item
that was left out comes before one that was kept. -/
theorem sortDescending_cut_prefix_iff {items : List β} (limit : Int)
    (horderly : ∀ x ∈ items, orderly (key x) = true) :
    sortDescending less orderly key (cut limit items) <+: sortDescending less orderly key items ↔
      ∀ x ∈ cut limit items, ∀ y ∈ items.drop limit.toNat, less (key x) (key y) = false := by
  have hsplit : cut limit items ++ items.drop limit.toNat = items := List.take_append_drop _ _
  have hparts : ∀ x ∈ cut limit items ++ items.drop limit.toNat, orderly (key x) = true := by
    rwa [hsplit]
  have hiff := sortDescending_append_prefix_iff hless key hparts
  rwa [hsplit] at hiff

/-- The first of ranked items is below none of them. -/
theorem less_head_sortDescending {items : List β} (horderly : ∀ x ∈ items, orderly (key x) = true)
    {first : β} (hfirst : (sortDescending less orderly key items).head? = some first) :
    ∀ x ∈ items, less (key first) (key x) = false := by
  intro x hx
  have hsorted := pairwise_sortDescending hless key horderly
  have hin := (sortDescending_perm less orderly key items).mem_iff.mpr hx
  obtain ⟨others, hothers⟩ := List.head?_eq_some_iff.mp hfirst
  rw [hothers] at hin hsorted
  rcases List.mem_cons.mp hin with rfl | hlater
  · rw [hless _ _ (horderly x hx) (horderly x hx)]
    simp
  · exact (List.pairwise_cons.mp hsorted).1 x hlater

end Ranking

/-- Cut before or after ranking, as many items are left. -/
theorem sortDescending_cut_eq_iff (less : κ → κ → Bool) (orderly : κ → Bool) (key : β → κ)
    (limit : Int) (items : List β) :
    sortDescending less orderly key (cut limit items) =
        cut limit (sortDescending less orderly key items) ↔
      sortDescending less orderly key (cut limit items) <+:
        sortDescending less orderly key items := by
  have hlength : (sortDescending less orderly key (cut limit items)).length =
      min limit.toNat items.length := by
    rw [(sortDescending_perm _ _ _ _).length_eq]
    exact List.length_take
  have hlength' := (sortDescending_perm less orderly key items).length_eq
  rw [List.prefix_iff_eq_take, hlength, ← hlength']
  unfold cut
  rw [← List.take_eq_take_min]

/-! ## Keys of results -/

namespace Scalar

/-- Scores with times are compared by the places of the scores and then by the times. -/
theorem pairLess_goesBy_of {α : Type} [Scalar α] {place : α → ι}
    (hless : ∀ a b, isOrderly a = true → isOrderly b = true →
      less a b = decide (place a < place b) ∧ same a b = decide (place a = place b)) :
    GoesBy (pairLess (α := α)) isPairOrderly fun k => toLex (place k.1, k.2) := by
  intro a b ha hb
  obtain ⟨hlessEq, hsameEq⟩ := hless a.1 b.1 ha hb
  unfold pairLess
  rw [hsameEq, hlessEq]
  by_cases hsame : place a.1 = place b.1
  · simp [hsame, Number.lex_lt_iff]
  · simp [hsame, Number.lex_lt_iff]

theorem less_goesBy : GoesBy (less (α := Float)) isOrderly Number.place :=
  fun _ _ ha hb => Number.less_eq_place ha hb

/-- The place of a score with a time: the score decides, then the time. -/
def pairPlace (k : Float × Int) : (ℤ ×ₗ ℤ ×ₗ ℤ) ×ₗ ℤ := toLex (Number.place k.1, k.2)

theorem pairLess_goesBy : GoesBy pairLess isPairOrderly pairPlace :=
  pairLess_goesBy_of fun _ _ ha hb =>
    ⟨Number.less_eq_place ha hb, Number.same_eq_place ha hb⟩

end Scalar

namespace TypeKey

/-- Keys of types are compared by what is asked for and then by the places of the scores with
times. -/
theorem less_goesBy_of {α : Type} [Scalar α] {place : α × Int → ι}
    (hless : GoesBy Scalar.pairLess Scalar.isPairOrderly place) :
    GoesBy (less (α := α)) (fun k => Scalar.isPairOrderly k.pair)
      fun k => toLex (k.exact, toLex (k.begins, place k.pair)) := by
  rintro ⟨exact₁, begins₁, a⟩ ⟨exact₂, begins₂, b⟩ ha hb
  unfold less
  rw [hless a b ha hb, Bool.eq_iff_iff, decide_eq_true_iff, Number.lex_lt_iff, Number.lex_lt_iff]
  cases exact₁ <;> cases exact₂ <;> cases begins₁ <;> cases begins₂ <;> simp

/-- The place of a type's key. -/
def place (k : TypeKey Float) : Bool ×ₗ Bool ×ₗ (ℤ ×ₗ ℤ ×ₗ ℤ) ×ₗ ℤ :=
  toLex (k.exact, toLex (k.begins, Scalar.pairPlace k.pair))

theorem less_goesBy : GoesBy less (fun k => Scalar.isPairOrderly k.pair) place :=
  less_goesBy_of Scalar.pairLess_goesBy

end TypeKey

end EntitySearch
