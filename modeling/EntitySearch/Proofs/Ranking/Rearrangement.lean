import EntitySearch.Ranking.Order
import Mathlib
/-!
# Sorting only rearranges

Whatever comparison is used, and be it no order at all, sorting by runs neither loses an item nor
makes one up: every step keeps how often an item occurs. `sortDescending_perm` states it for the
order in which results are ranked.
-/

namespace EntitySearch

section Counting

variable {β : Type} [DecidableEq β] (less : β → β → Bool)

theorem count_take_add_count_drop (n : Nat) (items : List β) (a : β) :
    (items.take n).count a + (items.drop n).count a = items.count a := by
  rw [← List.count_append, List.take_append_drop]

/-! ## Runs -/

namespace Runs

omit [DecidableEq β] in
theorem ascending_append (last : β) (items : List β) :
    (ascending less last items).1 ++ (ascending less last items).2 = items := by
  fun_induction ascending less last items <;> simp_all

omit [DecidableEq β] in
theorem descending_append (last : β) (items : List β) :
    (descending less last items).1 ++ (descending less last items).2 = items := by
  fun_induction descending less last items <;> simp_all

omit [DecidableEq β] in
/-- The run at the front of a list and what is behind it are the list again, the run perhaps turned
round. -/
theorem first_perm (items : List β) :
    ((first less items).1 ++ (first less items).2).Perm items := by
  unfold first
  split
  · rename_i x y rest
    split
    · have hrun := List.reverse_perm (x :: y :: (descending less y rest).1)
      refine (hrun.append_right _).trans (List.Perm.of_eq ?_)
      rw [List.cons_append, List.cons_append, descending_append]
    · refine List.Perm.of_eq ?_
      rw [List.cons_append, List.cons_append, ascending_append]
  · rw [List.append_nil]

omit [DecidableEq β] in
theorem first_ne_nil (x : β) (items : List β) : (first less (x :: items)).1 ≠ [] := by
  unfold first
  split
  · split <;> simp
  · simp

theorem count_insert (run : List β) (x a : β) :
    (insert less run x).count a = run.count a + [x].count a := by
  unfold insert
  set i := halve (fun i => !run[i]?.any (less x)) run.length 0 run.length
  have hsplit := count_take_add_count_drop i run a
  simp only [List.count_append, List.count_cons, List.count_nil]
  omega

theorem count_foldl_insert (items run : List β) (a : β) :
    (items.foldl (insert less) run).count a = run.count a + items.count a := by
  induction items generalizing run with
  | nil => simp
  | cons x items ih =>
    rw [List.foldl_cons, ih, count_insert]
    simp only [List.count_cons, List.count_nil]
    omega

theorem count_next (least : Nat) (items : List β) (a : β) :
    (next less least items).1.count a + (next less least items).2.count a = items.count a := by
  have hfirst := (first_perm less items).count_eq a
  have hsplit := count_take_add_count_drop (least - (first less items).1.length)
    (first less items).2 a
  rw [List.count_append] at hfirst
  unfold next
  simp only [count_foldl_insert]
  omega

omit [DecidableEq β] in
/-- A run takes at least one item, so what is left of a list is shorter. -/
theorem length_next_le (least : Nat) (x : β) (items : List β) :
    (next less least (x :: items)).2.length ≤ items.length := by
  have hrun := List.length_pos_iff.mpr (first_ne_nil less x items)
  have hlength := (first_perm less (x :: items)).length_eq
  rw [List.length_append, List.length_cons] at hlength
  unfold next
  simp only [List.length_drop]
  omega

end Runs

/-! ## Merging -/

namespace Merge

theorem count_move (n : Nat) (source target : List β) (a : β) :
    (move n source target).count a = (source.take n).count a + target.count a := by
  simp [move, List.reverseAux_eq]

/-- Merging upwards keeps the counts: in each phase what is moved from a run is what is put in
front of the merged items. -/
theorem count_upwards (fuel : Nat) (phase : Phase) (wins : Nat) (merged left right : List β)
    (a : β) :
    (upwards less fuel phase wins merged left right).1.count a =
      merged.count a + left.count a + right.count a := by
  fun_induction upwards less fuel phase wins merged left right with
  | case1 fuel l r wins merged x left y right _ hright =>
    rw [List.isEmpty_iff] at hright
    simp only [hright, List.reverseAux_eq, List.count_append, List.count_reverse, List.count_cons,
      List.count_nil]
    omega
  | case7 fuel wins merged left y right _ l moved hdrop =>
    -- galloping moves the first items of a run at once, so the run is split there
    have hleft := count_take_add_count_drop l left a
    simp only [moved, hdrop, List.reverseAux_eq, List.count_append, List.count_reverse,
      List.count_nil, count_move] at hleft ⊢
    omega
  | case8 fuel wins merged left y right _ l moved x rest hdrop hrest =>
    have hleft := count_take_add_count_drop l left a
    rw [Bool.and_eq_true, List.isEmpty_iff] at hrest
    simp only [moved, hdrop, hrest.2, List.reverseAux_eq, List.count_append, List.count_reverse,
      List.count_cons, List.count_nil, count_move] at hleft ⊢
    omega
  | case9 fuel wins merged left y right _ l moved x rest hdrop _ joined r moved' right' hright' =>
    have hleft := count_take_add_count_drop l left a
    have hright := count_take_add_count_drop r right a
    have hnone : right.drop r = [] := List.isEmpty_iff.mp hright'
    simp only [moved', joined, moved, hdrop, hnone, List.reverseAux_eq, List.count_append,
      List.count_reverse, List.count_cons, List.count_nil, count_move] at hleft hright ⊢
    omega
  | case10 fuel wins merged left y right _ l moved x rest hdrop _ joined r moved' right' _ joined'
      _ =>
    have hleft := count_take_add_count_drop l left a
    have hright := count_take_add_count_drop r right a
    simp only [joined', moved', right', joined, moved, hdrop, List.reverseAux_eq,
      List.count_append, List.count_reverse, List.count_cons, count_move] at hleft hright ⊢
    omega
  | case11 fuel wins merged left y right _ l moved x rest hdrop _ joined r moved' right' _ joined'
      _ phase wins' _ ih =>
    have hleft := count_take_add_count_drop l left a
    have hright := count_take_add_count_drop r right a
    simp only [ih, joined', moved', right', joined, moved, hdrop, List.count_cons,
      count_move] at hleft hright ⊢
    omega
  | _ =>
    simp_all only [List.reverseAux_eq, List.count_append, List.count_reverse, List.count_cons]
    omega

theorem count_downwards (fuel : Nat) (phase : Phase) (wins : Nat) (merged left right : List β)
    (a : β) :
    (downwards less fuel phase wins merged left right).1.count a =
      merged.count a + left.count a + right.count a := by
  fun_induction downwards less fuel phase wins merged left right with
  | case1 fuel l r wins merged x left y right _ hleft =>
    rw [List.isEmpty_iff] at hleft
    simp only [hleft, List.reverseAux_eq, List.count_append, List.count_reverse, List.count_cons,
      List.count_nil]
    omega
  | case7 fuel wins merged left y right _ l moved hdrop =>
    have hleft := count_take_add_count_drop l left a
    simp only [moved, hdrop, List.reverseAux_eq, List.count_append, List.count_reverse,
      List.count_nil, List.count_cons, count_move] at hleft ⊢
    omega
  | case8 fuel wins merged left y right _ l moved x rest hdrop joined _ =>
    have hleft := count_take_add_count_drop l left a
    simp only [joined, moved, hdrop, List.reverseAux_eq, List.count_append, List.count_reverse,
      List.count_cons, count_move] at hleft ⊢
    omega
  | case9 fuel wins merged left y right _ l moved x rest hdrop joined _ r moved' right' _ =>
    have hleft := count_take_add_count_drop l left a
    have hright := count_take_add_count_drop r right a
    simp only [right', moved', joined, moved, hdrop, List.reverseAux_eq, List.count_append,
      List.count_reverse, List.count_cons, count_move] at hleft hright ⊢
    omega
  | case10 fuel wins merged left y right _ l moved x rest hdrop joined _ r moved' right' _
      hright' =>
    have hleft := count_take_add_count_drop l left a
    have hright := count_take_add_count_drop r right a
    have hnone : right.drop r = [] := List.isEmpty_iff.mp hright'
    simp only [hnone, moved', joined, moved, hdrop, List.reverseAux_eq, List.count_append,
      List.count_reverse, List.count_cons, List.count_nil, count_move] at hleft hright ⊢
    omega
  | case11 fuel wins merged left y right _ l moved x rest hdrop joined _ r moved' right' _ _
      joined' hrest =>
    have hleft := count_take_add_count_drop l left a
    have hright := count_take_add_count_drop r right a
    have hnone : rest = [] := List.isEmpty_iff.mp hrest
    simp only [joined', right', moved', joined, moved, hdrop, hnone, List.reverseAux_eq,
      List.count_append, List.count_reverse, List.count_cons, List.count_nil, count_move]
      at hleft hright ⊢
    omega
  | case12 fuel wins merged left y right _ l moved x rest hdrop joined _ r moved' right' _ _
      joined' _ phase wins' _ ih =>
    have hleft := count_take_add_count_drop l left a
    have hright := count_take_add_count_drop r right a
    simp only [ih, joined', moved', right', joined, moved, hdrop, List.count_cons,
      count_move] at hleft hright ⊢
    omega
  | _ =>
    simp_all only [List.reverseAux_eq, List.count_append, List.count_reverse, List.count_cons]
    omega

theorem count_fromFront (wins : Nat) (left right : List β) (a : β) :
    (fromFront less wins left right).1.count a = left.count a + right.count a := by
  unfold fromFront
  split
  · simp
  · split
    · simp only [List.count_append, List.count_cons]
      omega
    · rw [count_upwards]
      simp only [List.count_cons, List.count_nil]
      omega

theorem count_fromBack (wins : Nat) (left right : List β) (a : β) :
    (fromBack less wins left right).1.count a = left.count a + right.count a := by
  have hleft := List.count_reverse (a := a) (l := left)
  unfold fromBack
  split
  · rename_i hnil
    simp [List.reverse_eq_nil_iff.mp hnil]
  · rename_i x rest hrest
    rw [hrest, List.count_cons] at hleft
    split
    · simp only [List.count_append]
      omega
    · rw [count_downwards]
      simp only [List.count_reverse, List.count_cons, List.count_nil]
      omega

theorem count_runs (wins : Nat) (left right : List β) (a : β) :
    (runs less wins left right).1.count a = left.count a + right.count a := by
  unfold runs
  split
  · simp
  · rename_i y tail
    have hleft := count_take_add_count_drop (Gallop.placeAfter less y left.toArray 0) left a
    simp only
    split
    · simp
    · rename_i x _
      have hright := count_take_add_count_drop
        (Gallop.placeBefore less x (y :: tail).toArray ((y :: tail).length - 1)) (y :: tail) a
      split
      · simp
      · split
        · simp only [List.count_append, count_fromFront]
          omega
        · simp only [List.count_append, count_fromBack]
          omega

end Merge

/-! ## Pending runs -/

namespace RunSort

/-- The items of all runs that wait. -/
def Pending.items (p : Pending β) : List β := p.runs.flatMap Run.items

theorem count_join (wins : Nat) (left right : Run β) (a : β) :
    (join less wins left right).1.items.count a = left.items.count a + right.items.count a :=
  Merge.count_runs less wins left.items right.items a

theorem count_collapse (power fuel : Nat) (p : Pending β) (a : β) :
    (collapse less power fuel p).items.count a = p.items.count a := by
  fun_induction collapse less power fuel p with
  | case1 fuel last before rest wins _ joined wins' hjoin ih =>
    have hcount := count_join less wins before last a
    rw [hjoin] at hcount
    rw [ih]
    simp only [Pending.items, List.flatMap_cons, List.count_append, hcount]
    omega
  | case2 => rfl
  | case3 => rfl

theorem count_push (length : Nat) (p : Pending β) (run : Run β) (a : β) :
    (push less length p run).items.count a = p.items.count a + run.items.count a := by
  unfold push
  split
  · rename_i hnone
    simp [Pending.items, hnone]
  · rename_i last rest hruns
    have hcount := count_collapse less (power length last run.items.length) p.runs.length p a
    simp only
    split
    · rename_i hnone
      simp only [Pending.items, hnone, List.flatMap_nil, List.count_nil] at hcount
      simp [Pending.items, ← hcount]
    · rename_i hsome
      simp only [Pending.items, hsome, List.flatMap_cons, List.count_append] at hcount ⊢
      omega

/-- As many rounds as there are items find all of them, since each run takes one at least. -/
theorem count_find (length fuel start : Nat) (p : Pending β) (items : List β) (a : β)
    (hfuel : items.length ≤ fuel) :
    (find less length fuel start p items).items.count a = p.items.count a + items.count a := by
  fun_induction find less length fuel start p items with
  | case1 fuel start p x items run rest hnext ih =>
    -- the run that is cut off takes an item at least, so there is fuel for the others
    have hcount := Runs.count_next less (Runs.leastLength length) (x :: items) a
    have hlength := Runs.length_next_le less (Runs.leastLength length) x items
    simp only [hnext] at hcount hlength
    rw [List.length_cons] at hfuel
    have hfind := ih (by omega)
    have hpush := count_push less length p ⟨start, run, 0⟩ a
    simp only at hpush
    omega
  | case2 fuel start p items hstop =>
    cases items with
    | nil => simp
    | cons x items =>
      cases fuel with
      | zero => simp at hfuel
      | succ fuel => exact absurd rfl (hstop fuel x items rfl)

theorem count_finish (fuel : Nat) (p : Pending β) (a : β) :
    (finish less fuel p).count a = p.items.count a := by
  fun_induction finish less fuel p with
  | case1 fuel last middle before rest wins _ joined wins' hjoin ih =>
    have hcount := count_join less wins before middle a
    rw [hjoin] at hcount
    rw [ih]
    simp only [Pending.items, List.flatMap_cons, List.count_append, hcount]
    omega
  | case2 fuel last middle before rest wins _ joined wins' hjoin ih =>
    have hcount := count_join less wins middle last a
    rw [hjoin] at hcount
    rw [ih]
    simp only [Pending.items, List.flatMap_cons, List.count_append, hcount]
    omega
  | case3 last before wins =>
    rw [count_join]
    simp only [Pending.items, List.flatMap_cons, List.flatMap_nil, List.count_append,
      List.count_nil]
    omega
  | case4 fuel p _ _ => exact ((List.reverse_perm p.runs).flatMap_right Run.items).count_eq a

theorem count_sort (items : List β) (a : β) : (sort less items).count a = items.count a := by
  unfold sort
  simp only
  rw [count_finish, count_find less _ _ _ _ _ _ (Nat.le_refl _)]
  simp [Pending.items]

end RunSort

end Counting

/-! ## Ranked lists -/

variable {β κ : Type}

theorem RunSort.sort_perm (less : β → β → Bool) (items : List β) :
    (RunSort.sort less items).Perm items := by
  classical
  rw [List.perm_iff_count]
  exact fun a => count_sort less items a

/-- Ranked items are the items that were to be ranked, whether their keys can be compared or
not. -/
theorem sortDescending_perm (less : κ → κ → Bool) (orderly : κ → Bool) (key : β → κ)
    (items : List β) : (sortDescending less orderly key items).Perm items := by
  unfold sortDescending
  split
  · exact List.mergeSort_perm _ _
  · exact (List.reverse_perm _).trans ((RunSort.sort_perm _ _).trans (List.reverse_perm _))

theorem cut_sublist (limit : Int) (items : List β) : (cut limit items).Sublist items :=
  List.take_sublist _ _

theorem length_cut_le (limit : Int) (items : List β) :
    ((cut limit items).length : Int) ≤ max limit 0 := by
  have hlength := List.length_take_le limit.toNat items
  unfold cut
  omega

end EntitySearch
