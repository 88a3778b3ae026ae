import EntitySearch.Proofs.Ranking.Stability
/-!
# Ranking in parts

A list may be ranked in parts: when each part is ranked and cut to the limit, or to a larger one,
before the parts are put together, the ranked whole begins as if nothing had been cut
(`SearchResult.rank_parts`). Ranking a joined list merges the ranked parts
(`insertionSort_append_eq_merge`), and what comes first in merged lists comes first in one of them
(`take_merge`).

A ranked list is told by what it is, whatever way it was ranked: the same items in descending order,
those that are level in the order in which they came (`SearchResult.Ranked.unique`).
-/

namespace EntitySearch

variable {β κ ι : Type} [LinearOrder ι]

/-! ## Merging by places -/

section Places

variable (place : β → ι)

/-- Two lists as one: of their first items the one that is not below the other comes next, and that
of the first list if they are at the same place. -/
def mergeByPlace (xs ys : List β) : List β := xs.merge ys fun a b => decide (NotBelow place a b)

variable {place} {xs ys : List β} {x y : β}

@[simp] theorem nil_mergeByPlace : mergeByPlace place [] ys = ys := List.nil_merge ys

@[simp] theorem mergeByPlace_nil : mergeByPlace place xs [] = xs := List.merge_right xs

theorem mergeByPlace_cons_of_notBelow (h : NotBelow place x y) :
    mergeByPlace place (x :: xs) (y :: ys) = x :: mergeByPlace place xs (y :: ys) :=
  List.cons_merge_cons_pos _ xs ys (decide_eq_true h)

theorem mergeByPlace_cons_of_below (h : ¬ NotBelow place x y) :
    mergeByPlace place (x :: xs) (y :: ys) = y :: mergeByPlace place (x :: xs) ys :=
  List.cons_merge_cons_neg _ xs ys (by simpa using h)

/-- Putting an item into a list merges the two. -/
theorem orderedInsert_eq_merge (x : β) (items : List β) :
    items.orderedInsert (NotBelow place) x = mergeByPlace place [x] items := by
  induction items with
  | nil => rw [List.orderedInsert_nil, mergeByPlace_nil]
  | cons y rest ih =>
    by_cases hxy : NotBelow place x y
    · rw [List.orderedInsert_cons_of_le _ rest hxy, mergeByPlace_cons_of_notBelow hxy,
        nil_mergeByPlace]
    · rw [List.orderedInsert_of_not_le _ rest hxy, mergeByPlace_cons_of_below hxy, ih]

/-- An item may be put into the first list before merging or into the merged list. -/
theorem orderedInsert_mergeByPlace (x : β) (xs ys : List β) :
    (mergeByPlace place xs ys).orderedInsert (NotBelow place) x =
      mergeByPlace place (xs.orderedInsert (NotBelow place) x) ys := by
  induction xs generalizing ys with
  | nil =>
    rw [nil_mergeByPlace, orderedInsert_eq_merge, List.orderedInsert_nil]
  | cons a xs ihx =>
    induction ys with
    | nil => rw [mergeByPlace_nil, mergeByPlace_nil]
    | cons b ys ihy =>
      by_cases hab : NotBelow place a b
      · rw [mergeByPlace_cons_of_notBelow hab]
        by_cases hxa : NotBelow place x a
        · -- in front of both
          rw [List.orderedInsert_cons_of_le _ _ hxa, List.orderedInsert_cons_of_le _ _ hxa,
            mergeByPlace_cons_of_notBelow (hab.trans hxa), mergeByPlace_cons_of_notBelow hab]
        · rw [List.orderedInsert_of_not_le _ _ hxa, List.orderedInsert_of_not_le _ _ hxa,
            mergeByPlace_cons_of_notBelow hab, ihx]
      · rw [mergeByPlace_cons_of_below hab]
        by_cases hxb : NotBelow place x b
        · -- the first item of the second list is above that of the first
          have hxa : NotBelow place x a := (not_le.mp hab).le.trans hxb
          rw [List.orderedInsert_cons_of_le _ _ hxb, List.orderedInsert_cons_of_le _ _ hxa,
            mergeByPlace_cons_of_notBelow hxb, mergeByPlace_cons_of_below hab]
        · rw [List.orderedInsert_of_not_le _ _ hxb, ihy]
          by_cases hxa : NotBelow place x a
          · rw [List.orderedInsert_cons_of_le _ _ hxa, mergeByPlace_cons_of_below hxb]
          · rw [List.orderedInsert_of_not_le _ _ hxa, mergeByPlace_cons_of_below hab]

/-- Sorting a joined list merges the sorted parts. -/
theorem insertionSort_append_eq_merge (xs ys : List β) :
    (xs ++ ys).insertionSort (NotBelow place) =
      mergeByPlace place (xs.insertionSort (NotBelow place))
        (ys.insertionSort (NotBelow place)) := by
  induction xs with
  | nil => simp
  | cons x xs ih =>
    rw [List.cons_append, List.insertionSort_cons, List.insertionSort_cons, ih,
      orderedInsert_mergeByPlace]

/-- The first items of merged lists are among the first of each. -/
theorem take_merge (n : ℕ) (xs ys : List β) :
    (mergeByPlace place xs ys).take n =
      (mergeByPlace place (xs.take n) (ys.take n)).take n := by
  induction n generalizing xs ys with
  | zero => simp
  | succ n ih =>
    cases xs with
    | nil => simp
    | cons x xs =>
      cases ys with
      | nil => simp
      | cons y ys =>
        by_cases hxy : NotBelow place x y
        · -- the second list loses nothing that is needed
          have hrest := ih xs (y :: ys)
          have hcut := ih (xs.take n) ((y :: ys).take (n + 1))
          rw [List.take_take, List.take_take, min_self, min_eq_left (Nat.le_succ n)] at hcut
          rw [List.take_succ_cons, List.take_succ_cons, mergeByPlace_cons_of_notBelow hxy,
            mergeByPlace_cons_of_notBelow hxy, List.take_succ_cons, List.take_succ_cons, hrest,
            ← hcut, List.take_succ_cons]
        · have hrest := ih (x :: xs) ys
          have hcut := ih ((x :: xs).take (n + 1)) (ys.take n)
          rw [List.take_take, List.take_take, min_self, min_eq_left (Nat.le_succ n)] at hcut
          rw [List.take_succ_cons, List.take_succ_cons, mergeByPlace_cons_of_below hxy,
            mergeByPlace_cons_of_below hxy, List.take_succ_cons, List.take_succ_cons, hrest,
            ← hcut, List.take_succ_cons]

end Places

/-! ## Sorting parts -/

section Parts

variable {place : β → ι} {n m : ℕ} {xs xs' ys ys' : List β}

/-- The first items of a sorted list, sorted again, are these items. -/
theorem take_insertionSort_take (hn : n ≤ m) (xs : List β) :
    (((xs.insertionSort (NotBelow place)).take m).insertionSort (NotBelow place)).take n =
      (xs.insertionSort (NotBelow place)).take n := by
  have hsorted := List.pairwise_insertionSort (NotBelow place) xs
  have hcut : ((xs.insertionSort (NotBelow place)).take m).Pairwise (NotBelow place) :=
    hsorted.sublist (List.take_sublist _ _)
  rw [hcut.insertionSort_eq, List.take_take, min_eq_left hn]

/-- What comes first in a joined list depends on what comes first in each part. -/
theorem take_insertionSort_append
    (hxs : (xs.insertionSort (NotBelow place)).take n = (xs'.insertionSort (NotBelow place)).take n)
    (hys : (ys.insertionSort (NotBelow place)).take n =
      (ys'.insertionSort (NotBelow place)).take n) :
    ((xs ++ ys).insertionSort (NotBelow place)).take n =
      ((xs' ++ ys').insertionSort (NotBelow place)).take n := by
  rw [insertionSort_append_eq_merge, insertionSort_append_eq_merge, take_merge, hxs, hys,
    ← take_merge]

/-- Descending lists with the same items at each place, in the same order, are equal. -/
theorem eq_of_filter_place (hxs : xs.Pairwise (NotBelow place)) (hys : ys.Pairwise (NotBelow place))
    (h : ∀ i : ι, xs.filter (fun x => place x = i) = ys.filter (fun x => place x = i)) :
    xs = ys := by
  induction xs generalizing ys with
  | nil =>
    cases ys with
    | nil => rfl
    | cons y ys =>
      have hnone := h (place y)
      simp at hnone
  | cons x xs ih =>
    cases ys with
    | nil =>
      have hnone := h (place x)
      simp at hnone
    | cons y ys =>
      obtain ⟨hx, hxrest⟩ := List.pairwise_cons.mp hxs
      obtain ⟨hy, hyrest⟩ := List.pairwise_cons.mp hys
      -- each of the first items stands in the other list as well
      have hxin : x ∈ (y :: ys).filter fun z => place z = place x := by
        rw [← h]
        simp
      have hyin : y ∈ (x :: xs).filter fun z => place z = place y := by
        rw [h]
        simp
      have hxy : place x ≤ place y := by
        rcases List.mem_cons.mp (List.mem_of_mem_filter hxin) with rfl | hin
        · exact le_rfl
        · exact hy x hin
      have hyx : place y ≤ place x := by
        rcases List.mem_cons.mp (List.mem_of_mem_filter hyin) with rfl | hin
        · exact le_rfl
        · exact hx y hin
      have hplace : place y = place x := le_antisymm hyx hxy
      have hfirst := h (place x)
      rw [List.filter_cons_of_pos (by simp), List.filter_cons_of_pos (by simp [hplace])] at hfirst
      obtain ⟨rfl, -⟩ := List.cons.inj hfirst
      congr 1
      refine ih hxrest hyrest fun i => ?_
      have hclass := h i
      rw [List.filter_cons, List.filter_cons] at hclass
      split at hclass
      · exact (List.cons.inj hclass).2
      · exact hclass

end Parts

/-! ## Ranked results -/

namespace SearchResult

/-- A result stands above another: its score is higher, or it is the same and the result was created
later. -/
def Above (a b : SearchResult Float) : Prop :=
  b.score < a.score ∨ (b.score == a.score) = true ∧ b.createdAt < a.createdAt

/-- Whether two results have the same score and were created at the same time. -/
def isLevel (a b : SearchResult Float) : Bool := a.score == b.score && a.createdAt == b.createdAt

/-- A list is what ranking some results gives: the same results, none below one that comes later,
and level ones in the order in which they were. -/
structure Ranked (results ranked : List (SearchResult Float)) : Prop where
  perm : ranked.Perm results
  descending : ranked.Pairwise fun earlier later => ¬ later.Above earlier
  stable : ∀ r ∈ results, ranked.filter (isLevel r) = results.filter (isLevel r)

/-- The place of a result in the general ranking. -/
def standing (r : SearchResult Float) : (ℤ ×ₗ ℤ ×ₗ ℤ) ×ₗ ℤ := Scalar.pairPlace r.rankKey

section Standing

variable {a b : SearchResult Float} (ha : a.score.isNaN = false) (hb : b.score.isNaN = false)

include ha in
theorem isOrderly_score : Scalar.isOrderly a.score = true := by
  rw [Number.isOrderly_eq_not_isNaN, ha]
  rfl

include ha hb

theorem above_iff : a.Above b ↔ b.standing < a.standing := by
  have hless := Number.less_eq_place (isOrderly_score hb) (isOrderly_score ha)
  have hsame := Number.same_eq_place (isOrderly_score hb) (isOrderly_score ha)
  have hscore : b.score < a.score ↔ Number.place b.score < Number.place a.score := by
    rw [← decide_eq_true_iff (p := Number.place b.score < Number.place a.score), ← hless]
    exact decide_eq_true_iff.symm
  have hequal : (b.score == a.score) = true ↔ Number.place b.score = Number.place a.score := by
    rw [← decide_eq_true_iff (p := Number.place b.score = Number.place a.score), ← hsame]
    rfl
  unfold Above standing Scalar.pairPlace
  rw [Number.lex_lt_iff, hscore, hequal]
  rfl

theorem isLevel_eq : a.isLevel b = decide (b.standing = a.standing) := by
  have hsame := Number.same_eq_place (isOrderly_score ha) (isOrderly_score hb)
  have hequal : (a.score == b.score) = decide (Number.place a.score = Number.place b.score) := hsame
  unfold isLevel standing Scalar.pairPlace rankKey
  rw [hequal, Bool.eq_iff_iff, Bool.and_eq_true, beq_iff_eq, decide_eq_true_iff, decide_eq_true_iff,
    toLex_inj, Prod.mk.injEq, eq_comm, eq_comm (a := b.createdAt)]

end Standing

/-- The results by score and then by time of creation, not cut. -/
theorem rank_eq (limit : Int) {results : List (SearchResult Float)}
    (h : ∀ r ∈ results, r.score.isNaN = false) :
    rank limit results = (results.insertionSort (NotBelow standing)).take limit.toNat := by
  have horderly : ∀ r ∈ results, Scalar.isOrderly r.score = true := fun r hr =>
    isOrderly_score (h r hr)
  have hsorted := sortDescending_eq Scalar.pairLess_goesBy rankKey horderly
  unfold rank cut
  rw [hsorted]
  rfl

namespace Ranked

variable {results ranked other : List (SearchResult Float)}
  (hresults : ∀ r ∈ results, r.score.isNaN = false)

include hresults

theorem defined (h : Ranked results ranked) : ∀ r ∈ ranked, r.score.isNaN = false :=
  fun r hr => hresults r (h.perm.mem_iff.mp hr)

theorem pairwise (h : Ranked results ranked) : ranked.Pairwise (NotBelow standing) :=
  h.descending.imp_of_mem fun ha hb hab =>
    not_lt.mp (mt (above_iff (h.defined hresults _ hb) (h.defined hresults _ ha)).mpr hab)

/-- Sorted results are ranked. -/
theorem insertionSort : Ranked results (results.insertionSort (NotBelow standing)) := by
  have hperm := List.perm_insertionSort (NotBelow standing) results
  have hdefined : ∀ r ∈ results.insertionSort (NotBelow standing), r.score.isNaN = false :=
    fun r hr => hresults r (hperm.mem_iff.mp hr)
  refine ⟨hperm, ?_, ?_⟩
  · refine (List.pairwise_insertionSort (NotBelow standing) results).imp_of_mem ?_
    intro a b ha hb hab
    rw [above_iff (hdefined b hb) (hdefined a ha)]
    exact not_lt.mpr hab
  · intro r hr
    -- sorting leaves results at one place as they are
    rw [filter_insertionSort]
    refine List.Pairwise.insertionSort_eq (List.pairwise_of_forall_mem_list ?_)
    intro a ha b hb
    obtain ⟨hain, hlevel⟩ := List.mem_filter.mp ha
    obtain ⟨hbin, hlevel'⟩ := List.mem_filter.mp hb
    rw [isLevel_eq (hresults r hr) (hresults a hain), decide_eq_true_iff] at hlevel
    rw [isLevel_eq (hresults r hr) (hresults b hbin), decide_eq_true_iff] at hlevel'
    exact (hlevel'.trans hlevel.symm).le

/-- There is one way of ranking. -/
theorem unique (h : Ranked results ranked) (hother : Ranked results other) : ranked = other := by
  refine eq_of_filter_place (h.pairwise hresults) (hother.pairwise hresults) fun i => ?_
  by_cases hi : ∃ r ∈ results, standing r = i
  · obtain ⟨r, hr, rfl⟩ := hi
    have hclass : ∀ {items : List (SearchResult Float)}, (∀ x ∈ items, x.score.isNaN = false) →
        items.filter (fun x => standing x = standing r) = items.filter (isLevel r) := by
      intro items hitems
      refine List.filter_congr fun x hx => ?_
      rw [isLevel_eq (hresults r hr) (hitems x hx)]
    rw [hclass (h.defined hresults), hclass (hother.defined hresults), h.stable r hr,
      hother.stable r hr]
  · -- nothing stands at this place
    push Not at hi
    have hnone : ∀ {items : List (SearchResult Float)}, items.Perm results →
        items.filter (fun x => standing x = i) = [] := by
      intro items hperm
      refine List.filter_eq_nil_iff.mpr fun x hx => ?_
      simpa using hi x (hperm.mem_iff.mp hx)
    rw [hnone h.perm, hnone hother.perm]

end Ranked

theorem mem_of_mem_rank {limit : Int} {results : List (SearchResult Float)}
    {r : SearchResult Float} (h : r ∈ rank limit results) : r ∈ results :=
  (sortDescending_perm _ _ _ _).mem_iff.mp ((cut_sublist _ _).subset h)

/-- Results may be ranked in parts, each of which is cut to a limit that is not below the one for
all. -/
theorem rank_flatMap {limit : Int} {parts : List (Int × List (SearchResult Float))}
    (h : ∀ part ∈ parts, limit ≤ part.1 ∧ ∀ r ∈ part.2, r.score.isNaN = false) :
    rank limit (parts.flatMap fun part => rank part.1 part.2) =
      rank limit (parts.flatMap Prod.snd) := by
  have hall : ∀ r ∈ parts.flatMap Prod.snd, r.score.isNaN = false := by
    intro r hr
    obtain ⟨part, hpart, hin⟩ := List.mem_flatMap.mp hr
    exact (h part hpart).2 r hin
  have hcut : ∀ r ∈ parts.flatMap fun part => rank part.1 part.2, r.score.isNaN = false := by
    intro r hr
    obtain ⟨part, hpart, hin⟩ := List.mem_flatMap.mp hr
    exact (h part hpart).2 r (mem_of_mem_rank hin)
  rw [rank_eq limit hall, rank_eq limit hcut]
  clear hall hcut
  induction parts with
  | nil => rfl
  | cons part rest ih =>
    obtain ⟨hlimit, hpart⟩ := h part List.mem_cons_self
    rw [List.flatMap_cons, List.flatMap_cons, rank_eq part.1 hpart]
    -- the first part and the others may be exchanged for what begins alike
    refine take_insertionSort_append ?_ (ih fun other hother => ?_)
    · exact take_insertionSort_take (Int.toNat_le_toNat hlimit) part.2
    · exact h other (List.mem_cons_of_mem _ hother)

/-- Ranking results shows the first of them in descending order, level ones as they come, at most as
many as the limit and none if it is negative. It may be done early: whatever parts are ranked and cut
to the limit, or to a larger one, before they are put together and ranked, nothing is lost and
nothing changes its place. -/
theorem rank_parts (limit : Int) {xs ys : List (SearchResult Float)}
    (hxs : ∀ r ∈ xs, r.score.isNaN = false) (hys : ∀ r ∈ ys, r.score.isNaN = false) :
    (∃ ranked, Ranked xs ranked ∧ (∀ other, Ranked xs other → other = ranked) ∧
      rank limit xs = ranked.take (max limit 0).toNat) ∧
    rank limit (rank limit xs ++ rank limit ys) = rank limit (xs ++ ys) ∧
    rank limit (rank limit xs) = rank limit xs ∧
    ∀ parts : List (Int × List (SearchResult Float)),
      (∀ part ∈ parts, limit ≤ part.1 ∧ ∀ r ∈ part.2, r.score.isNaN = false) →
      rank limit (parts.flatMap fun part => rank part.1 part.2) =
        rank limit (parts.flatMap Prod.snd) := by
  have hranked := Ranked.insertionSort hxs
  refine ⟨⟨_, hranked, fun other hother => hother.unique hxs hranked, ?_⟩, ?_, ?_,
    fun parts => rank_flatMap⟩
  · have hlimit : (max limit 0).toNat = limit.toNat := by omega
    rw [rank_eq limit hxs, hlimit]
  · have hparts : ∀ part ∈ [(limit, xs), (limit, ys)],
        limit ≤ part.1 ∧ ∀ r ∈ part.2, r.score.isNaN = false := by
      intro part hpart
      rcases List.mem_pair.mp hpart with rfl | rfl
      · exact ⟨le_rfl, hxs⟩
      · exact ⟨le_rfl, hys⟩
    simpa using rank_flatMap hparts
  · have hpart : ∀ part ∈ [(limit, xs)],
        limit ≤ part.1 ∧ ∀ r ∈ part.2, r.score.isNaN = false := by
      intro part hpart
      rw [List.mem_singleton.mp hpart]
      exact ⟨le_rfl, hxs⟩
    simpa using rank_flatMap hpart

/-! Notes of which some are level, one of them in both parts. -/

/-- A note with a score and a time of creation. -/
def noteOf (id : Text) (score : Float) (createdAt : Int) : SearchResult Float :=
  ⟨.note, id, score, .null, [], createdAt, none⟩

theorem rank_parts_level :
    let xs := [noteOf "a" 1 5, noteOf "b" 1 7, noteOf "c" 1 7]
    let ys := [noteOf "d" 2 0, noteOf "b" 1 7]
    (∀ r ∈ xs, r.score.isNaN = false) ∧ (∀ r ∈ ys, r.score.isNaN = false) ∧
    rank 3 (rank 3 xs ++ rank 3 ys) = rank 3 (xs ++ ys) ∧
    (rank 3 (rank 3 xs ++ rank 3 ys)).map entityId = (["d", "b", "c"] : List Text) ∧
    rank 1 ([(1, xs), (2, ys)].flatMap fun part => rank part.1 part.2) = rank 1 (xs ++ ys) := by
  intro xs ys
  have hxs : ∀ r ∈ xs, r.score.isNaN = false := by decide +kernel
  have hys : ∀ r ∈ ys, r.score.isNaN = false := by decide +kernel
  have hsame := (rank_parts 3 hxs hys).2.1
  have hparts := (rank_parts 1 hxs hys).2.2.2 [(1, xs), (2, ys)] (by decide +kernel)
  refine ⟨hxs, hys, hsame, ?_, ?_⟩
  · have hall : ∀ r ∈ xs ++ ys, r.score.isNaN = false := by decide +kernel
    rw [hsame, rank_eq 3 hall]
    decide +kernel
  · simpa using hparts

end SearchResult

end EntitySearch
