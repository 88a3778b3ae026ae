import EntitySearch.Proofs.Ranking.FusedOrder
/-!
# Fusing respects ranks

An entity that ranks no lower than another in both lists and higher in one is shown before it in the
fused list, whatever the limit (`RankFusion.fuse_respects`). So entities of one list alone stay in
their order, and an entity of both lists comes before those of one list that rank below it there.
-/

namespace EntitySearch

namespace SearchResult

variable {α : Type}

/-- Wherever an entity is shown, another is shown as well, and earlier. -/
def Precedes (results : List (SearchResult α)) (earlier later : Text) : Prop :=
  later ∈ ids results →
    earlier ∈ ids results ∧ firstRank results earlier < firstRank results later

variable {results : List (SearchResult α)} {a b : Text}

/-- In a list that is sorted by a relation, an entity comes before one that must not come before
it. -/
theorem firstRank_lt_of_pairwise {R : Text → Text → Prop} (h : (ids results).Pairwise R)
    (hne : a ≠ b) (hnot : ¬ R b a) (ha : a ∈ ids results) :
    firstRank results a < firstRank results b := by
  by_contra hle
  have hlast := List.idxOf_lt_length_of_mem ha
  have hfirst : (ids results).idxOf b < (ids results).idxOf a := by
    refine lt_of_le_of_ne (not_lt.mp hle) fun heq => hne ?_
    exact ((List.idxOf_inj ha).mp heq.symm)
  have hrelated := List.pairwise_iff_getElem.mp h _ _ (hfirst.trans hlast) hlast hfirst
  rw [List.getElem_idxOf, List.getElem_idxOf] at hrelated
  exact hnot hrelated

/-- Cutting a list keeps whatever comes before something that is kept. -/
theorem precedes_cut (h : firstRank results a < firstRank results b) (limit : Int) :
    Precedes (cut limit results) a b := by
  intro hb
  have hsplit : cut limit results ++ results.drop limit.toNat = results := List.take_append_drop _ _
  have hlater := firstRank_lt_iff.mpr hb
  rw [← hsplit, firstRank_append_of_mem hb] at h
  -- what is cut off would rank behind everything that is kept
  have ha : a ∈ ids (cut limit results) := by
    by_contra hnot
    rw [firstRank_append_of_notMem hnot] at h
    omega
  rw [firstRank_append_of_mem ha] at h
  exact ⟨ha, h⟩

end SearchResult

namespace RankFusion

open SearchResult (ids firstRank Precedes)

/-! ## Shares -/

section Shares

variable {k : Int} (hk : 0 ≤ k) {weight : ℚ} {results : List (SearchResult ℚ)} {a b : Text}

include hk

theorem divisor_pos (rank : ℕ) : (0 : ℚ) < k + rank + 1 := by
  have hconstant : (0 : ℚ) ≤ k := Int.cast_nonneg hk
  positivity

theorem share_nonneg (hweight : 0 ≤ weight) (results : List (SearchResult ℚ)) (id : Text) :
    0 ≤ share k weight results id := by
  unfold share
  split
  · exact div_nonneg hweight (divisor_pos hk _).le
  · exact le_rfl

/-- An entity that ranks no lower has no smaller share. -/
theorem share_le_share (hweight : 0 ≤ weight) (h : firstRank results a ≤ firstRank results b) :
    share k weight results b ≤ share k weight results a := by
  rcases Nat.lt_or_ge (firstRank results b) results.length with hb | hb
  · have hrank : (firstRank results a : ℚ) ≤ firstRank results b := Nat.cast_le.mpr h
    unfold share
    rw [if_pos (h.trans_lt hb), if_pos hb]
    exact div_le_div_of_nonneg_left hweight (divisor_pos hk _) (by linarith)
  · have hnone : share k weight results b = 0 := if_neg (not_lt.mpr hb)
    rw [hnone]
    exact share_nonneg hk hweight results a

/-- An entity that ranks higher has a greater share, if the list has any weight. -/
theorem share_lt_share (hweight : 0 < weight) (h : firstRank results a < firstRank results b) :
    share k weight results b < share k weight results a := by
  have ha : firstRank results a < results.length :=
    h.trans_le (SearchResult.firstRank_le results b)
  have hrank : (firstRank results a : ℚ) < firstRank results b := Nat.cast_lt.mpr h
  unfold share
  rw [if_pos ha]
  split
  · exact div_lt_div_of_pos_left hweight (divisor_pos hk _) (by linarith)
  · exact div_pos hweight (divisor_pos hk _)

end Shares

/-! ## Ranks in both lists -/

/-- An entity ranks no lower than another in either of two lists, and higher in one. An entity that
does not occur ranks behind all others. -/
structure Outranks (primary secondary : List (SearchResult ℚ)) (a b : Text) : Prop where
  inPrimary : firstRank primary a ≤ firstRank primary b
  inSecondary : firstRank secondary a ≤ firstRank secondary b
  higher : firstRank primary a < firstRank primary b ∨ firstRank secondary a < firstRank secondary b

namespace Outranks

variable {primary secondary : List (SearchResult ℚ)} {a b : Text}
  (h : Outranks primary secondary a b)

include h

theorem ne : a ≠ b := by
  rintro rfl
  exact h.higher.elim (lt_irrefl _) (lt_irrefl _)

theorem mem : a ∈ ids primary ∨ a ∈ ids secondary := by
  refine h.higher.imp (fun hlt => ?_) fun hlt => ?_
  · exact SearchResult.firstRank_lt_iff.mp (hlt.trans_le (SearchResult.firstRank_le _ _))
  · exact SearchResult.firstRank_lt_iff.mp (hlt.trans_le (SearchResult.firstRank_le _ _))

/-- It has the greater sum, or the sums are equal and it occurs first: the secondary list may have
no weight, and then it decides about entities that the primary list lacks. -/
theorem before {f : RankFusion ℚ} (hk : 0 ≤ f.k) (hboost : 0 ≤ f.secondaryBoost) :
    Before (f.total primary secondary) (fun a b =>
      firstRank (primary ++ secondary) a < firstRank (primary ++ secondary) b) a b := by
  have hfirst := share_le_share hk zero_le_one h.inPrimary
  have hsecond := share_le_share hk hboost h.inSecondary
  by_cases hprimary : firstRank primary a < firstRank primary b
  · have hgreater := share_lt_share hk zero_lt_one hprimary
    exact Or.inl (add_lt_add_of_lt_of_le hgreater hsecond)
  · have hsecondary := h.higher.resolve_left hprimary
    have hequal : firstRank primary a = firstRank primary b :=
      le_antisymm h.inPrimary (not_lt.mp hprimary)
    rcases (add_le_add hfirst hsecond).lt_or_eq with hless | hsame
    · exact Or.inl hless
    · -- different entities at one rank are both missing
      have ha : a ∉ ids primary := fun ha => h.ne ((List.idxOf_inj ha).mp hequal)
      have hb : b ∉ ids primary := fun hb => h.ne ((List.idxOf_inj hb).mp hequal.symm).symm
      refine Or.inr ⟨hsame.symm, ?_⟩
      simp only [SearchResult.firstRank_append_of_notMem ha,
        SearchResult.firstRank_append_of_notMem hb]
      omega

end Outranks

variable {f : RankFusion ℚ} (hk : 0 ≤ f.k) (hboost : 0 ≤ f.secondaryBoost)
  {primary secondary : List (SearchResult ℚ)}

include hk hboost

theorem Fused.precedes {all : List (SearchResult ℚ)} (hall : f.Fused primary secondary all)
    {a b : Text} (h : Outranks primary secondary a b) (limit : Int) :
    Precedes (cut limit all) a b := by
  have hbefore := (h.before hk hboost).asymm fun _ _ hlt => not_lt.mpr hlt.le
  exact SearchResult.precedes_cut (SearchResult.firstRank_lt_of_pairwise hall.inOrder h.ne hbefore
    ((hall.mem_iff a).mpr h.mem)) limit

omit hk hboost in
/-- An entity of a list ranks higher than one that only this list has, if it does so in this list,
or does not rank lower there and is in the other list as well. -/
theorem outranks_of_alone {a b : Text} (hb : b ∉ ids secondary)
    (h : firstRank primary a < firstRank primary b ∨
      firstRank primary a ≤ firstRank primary b ∧ a ∈ ids secondary) :
    Outranks primary secondary a b := by
  have hlast := SearchResult.firstRank_eq_length hb
  have hsecondary := SearchResult.firstRank_le secondary a
  rcases h with hlt | ⟨hle, ha⟩
  · exact ⟨hlt.le, hlast ▸ hsecondary, Or.inl hlt⟩
  · have hrank := SearchResult.firstRank_lt_iff.mpr ha
    exact ⟨hle, hlast ▸ hsecondary, Or.inr (hlast ▸ hrank)⟩

omit hk hboost in
theorem Outranks.swap {a b : Text} (h : Outranks secondary primary a b) :
    Outranks primary secondary a b := ⟨h.inSecondary, h.inPrimary, h.higher.symm⟩

variable (primary secondary)

/-- Without rounding, an entity that ranks no lower than another in both lists and higher in one
precedes it in the fused list, whatever the limit. So the entities that only one of the lists has
precede each other as they do there, and an entity of both lists precedes those that only one of
them has and that rank no higher there. -/
theorem fuse_respects (limit : Int) :
    ∃ fused, f.fuse primary secondary limit = .ok fused ∧
      (∀ a b, Outranks primary secondary a b → Precedes fused a b) ∧
      ∀ own other, own = primary ∧ other = secondary ∨ own = secondary ∧ other = primary →
        ∀ a b, b ∉ ids other →
          (a ∉ ids other → firstRank own a < firstRank own b → Precedes fused a b) ∧
          (a ∈ ids own → a ∈ ids other → firstRank own a ≤ firstRank own b →
            Precedes fused a b) := by
  obtain ⟨first, second, hfirst, hsecond, hfuse⟩ := exists_ranksOf hk primary secondary
  have hall := fused_sortDescending hfirst hsecond
  refine ⟨_, hfuse limit, fun a b h => hall.precedes hk hboost h limit, ?_⟩
  have halone : ∀ own other, own = primary ∧ other = secondary ∨ own = secondary ∧ other = primary →
      ∀ a b, b ∉ ids other → (firstRank own a < firstRank own b ∨
        firstRank own a ≤ firstRank own b ∧ a ∈ ids other) → Outranks primary secondary a b := by
    rintro own other (⟨rfl, rfl⟩ | ⟨rfl, rfl⟩) a b hb h
    · exact outranks_of_alone hb h
    · exact (outranks_of_alone hb h).swap
  intro own other hlists a b hb
  constructor
  · intro _ hlt
    exact hall.precedes hk hboost (halone own other hlists a b hb (Or.inl hlt)) limit
  · intro _ ha hle
    exact hall.precedes hk hboost (halone own other hlists a b hb (Or.inr ⟨hle, ha⟩)) limit

omit hk hboost

/-- Even if the secondary list has no weight, its own entities stay in their order. -/
theorem fuse_respects_weightless :
    (0 : Int) ≤ 0 ∧ (0 : ℚ) ≤ 0 ∧
      Outranks (ranking [("a", 1)]) (ranking [("c", 2), ("a", 3), ("b", 4)]) "c" "b" ∧
      ∃ fused, (⟨0, 0⟩ : RankFusion ℚ).fuse (ranking [("a", 1)])
          (ranking [("c", 2), ("a", 3), ("b", 4)]) 3 = .ok fused ∧ Precedes fused "c" "b" := by
  have hk : (0 : Int) ≤ 0 := le_rfl
  have hboost : (0 : ℚ) ≤ 0 := le_rfl
  have houtranks : Outranks (ranking [("a", 1)]) (ranking [("c", 2), ("a", 3), ("b", 4)]) "c" "b" :=
    ⟨by decide, by decide, by decide⟩
  obtain ⟨fused, hfuse, hprecedes, -⟩ := fuse_respects (f := ⟨0, 0⟩) hk hboost
    (ranking [("a", 1)]) (ranking [("c", 2), ("a", 3), ("b", 4)]) 3
  exact ⟨hk, hboost, houtranks, fused, hfuse, hprecedes _ _ houtranks⟩

end RankFusion

end EntitySearch
