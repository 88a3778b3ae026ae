import EntitySearch.Proofs.Number.Reciprocal
import EntitySearch.Proofs.Ranking.FusedEntities
import EntitySearch.Proofs.Ranking.FusionRange
import EntitySearch.Proofs.Ranking.Selection
/-!
# Fusing a list with nothing

What an entity contributes by its rank does not grow with the rank
(`RankFusion.pairwise_ranked`), so a list that is fused with an empty one stays in its order: it
loses the later occurrences of entities, is cut, and gets combined scores, and nothing else about it
changes (`RankFusion.unfused_fuse_nil`).
-/

namespace EntitySearch

namespace SearchResult

variable {α : Type}

/-- A result without its combined score. -/
def unfused (r : SearchResult α) : SearchResult α := { r with fusionScore := none }

/-- Whether two results have the same id. -/
def sameId (r s : SearchResult α) : Bool := r.entityId = s.entityId

/-- The results without those whose ids occur before. -/
def firsts (results : List (SearchResult α)) : List (SearchResult α) := results.eraseDupsBy sameId

end SearchResult

namespace RankFusion

open SearchResult (firsts unfused sameId)

/-! ## First occurrences -/

section Occurrences

variable {α : Type} [Scalar α] {k : Int} {weight : α}

/-- The entries of a ranked list are the results that have not been seen before, in order. `kept`
holds those that have, latest first. -/
theorem loop_eq_rankedFrom {results kept : List (SearchResult α)} {rank : Int}
    {ledger : Ledger Text (Ranked α)}
    (h : rankedFrom k weight (kept.map SearchResult.entityId) rank results = .ok ledger) :
    List.eraseDupsBy.loop sameId results kept =
      kept.reverse ++ ledger.map fun e => e.2.result := by
  induction results generalizing kept rank ledger with
  | nil =>
    cases h
    simp [List.eraseDupsBy.loop]
  | cons r rest ih =>
    have hseen : kept.any (sameId r) = true ↔ r.entityId ∈ kept.map SearchResult.entityId := by
      simp only [List.any_eq_true, List.mem_map, sameId, decide_eq_true_iff,
        eq_comm (a := r.entityId)]
    unfold List.eraseDupsBy.loop
    rcases rankedFrom_cons h with ⟨hold, hrest⟩ | ⟨hnew, contribution, later, _, hrest, rfl⟩
    · rw [hseen.mpr hold]
      exact ih hrest
    · rw [Bool.eq_false_iff.mpr fun hold => hnew (hseen.mp hold)]
      simp only
      rw [@ih (r :: kept) (rank + 1) later hrest, List.reverse_cons, List.append_assoc,
        List.singleton_append, List.map_cons]

omit [Scalar α] in
/-- What has been kept stays in front of what is still kept. -/
theorem loop_eq_append (results kept : List (SearchResult α)) :
    ∃ later, List.eraseDupsBy.loop sameId results kept = kept.reverse ++ later ∧
      later.Sublist results := by
  induction results generalizing kept with
  | nil => exact ⟨[], by simp [List.eraseDupsBy.loop], List.Sublist.refl _⟩
  | cons r rest ih =>
    unfold List.eraseDupsBy.loop
    split
    · obtain ⟨later, hlater, hsub⟩ := ih kept
      exact ⟨later, hlater, hsub.cons r⟩
    · obtain ⟨later, hlater, hsub⟩ := ih (r :: kept)
      exact ⟨r :: later, by rw [hlater, List.reverse_cons, List.append_assoc,
        List.singleton_append], hsub.cons_cons r⟩

omit [Scalar α] in
theorem firsts_sublist (results : List (SearchResult α)) : (firsts results).Sublist results := by
  obtain ⟨later, hlater, hsub⟩ := loop_eq_append results []
  have hfirsts : firsts results = later := hlater
  rw [hfirsts]
  exact hsub

omit [Scalar α] in
/-- Where no id occurs twice, nothing is left out. -/
theorem firsts_eq_self {results : List (SearchResult α)}
    (hnodup : (results.map SearchResult.entityId).Nodup) : firsts results = results := by
  have hloop : ∀ (results kept : List (SearchResult α)),
      ((kept.reverse ++ results).map SearchResult.entityId).Nodup →
        List.eraseDupsBy.loop sameId results kept = kept.reverse ++ results := by
    intro results
    induction results with
    | nil => exact fun kept _ => by simp [List.eraseDupsBy.loop]
    | cons r rest ih =>
      intro kept hkept
      have hnew : kept.any (sameId r) = false := by
        rw [List.map_append, List.map_reverse, List.nodup_append] at hkept
        refine List.any_eq_false.mpr ?_
        intro other hother hsame
        refine hkept.2.2 other.entityId ?_ r.entityId ?_ (of_decide_eq_true hsame).symm
        · exact List.mem_reverse.mpr (List.mem_map_of_mem hother)
        · exact List.mem_cons_self
      have hstep : kept.reverse ++ r :: rest = (r :: kept).reverse ++ rest := by
        rw [List.reverse_cons, List.append_assoc, List.singleton_append]
      unfold List.eraseDupsBy.loop
      rw [hnew, hstep]
      exact ih (r :: kept) (hstep ▸ hkept)
  exact hloop results [] hnodup

theorem ranked_results {results : List (SearchResult α)} {ledger : Ledger Text (Ranked α)}
    (h : ranked k weight results = .ok ledger) :
    (ledger.map fun e => e.2.result) = firsts results :=
  (@loop_eq_rankedFrom α _ k weight results [] 0 ledger h).symm

end Occurrences

/-! ## Contributions -/

/-- From a rank on, what the entities contribute can be compared and does not grow. -/
theorem pairwise_rankedFrom {k rank : Int} (hrank : 0 ≤ k + rank) {seen : List Text}
    {results : List (SearchResult Float)} {ledger : Ledger Text (Ranked Float)}
    (h : rankedFrom k (Scalar.ofNat 1) seen rank results = .ok ledger) :
    (∀ e ∈ ledger, ∃ n, k + rank + 1 ≤ n ∧
      Scalar.divInt (Scalar.ofNat 1) n = .ok e.2.contribution) ∧
    ledger.Pairwise fun a b => Scalar.less a.2.contribution b.2.contribution = false := by
  induction results generalizing seen rank ledger with
  | nil =>
    cases h
    simp
  | cons r rest ih =>
    rcases rankedFrom_cons h with ⟨_, hrest⟩ | ⟨_, contribution, later, hdiv, hrest, rfl⟩
    · obtain ⟨hshares, hsorted⟩ := ih (show 0 ≤ k + (rank + 1) by omega) hrest
      refine ⟨fun e he => ?_, hsorted⟩
      obtain ⟨n, hn, hshare⟩ := hshares e he
      exact ⟨n, by omega, hshare⟩
    · obtain ⟨hshares, hsorted⟩ := ih (show 0 ≤ k + (rank + 1) by omega) hrest
      refine ⟨fun e he => ?_, List.pairwise_cons.mpr ⟨fun e he => ?_, hsorted⟩⟩
      · rcases List.mem_cons.mp he with rfl | hlater
        · exact ⟨k + rank + 1, le_refl _, hdiv⟩
        · obtain ⟨n, hn, hshare⟩ := hshares e hlater
          exact ⟨n, by omega, hshare⟩
      · obtain ⟨n, hn, hshare⟩ := hshares e he
        exact (Number.less_one_div (show 1 ≤ k + rank + 1 by omega) (by omega) hdiv hshare).2

theorem pairwise_ranked {k : Int} (hk : 0 ≤ k) {results : List (SearchResult Float)}
    {ledger : Ledger Text (Ranked Float)} (h : ranked k (Scalar.ofNat 1) results = .ok ledger) :
    (∀ e ∈ ledger, Scalar.isOrderly e.2.contribution = true) ∧
    ledger.Pairwise fun a b => Scalar.less a.2.contribution b.2.contribution = false := by
  obtain ⟨hshares, hsorted⟩ := pairwise_rankedFrom (show 0 ≤ k + 0 by omega) h
  refine ⟨fun e he => ?_, hsorted⟩
  obtain ⟨n, hn, hshare⟩ := hshares e he
  exact (Number.less_one_div (show 1 ≤ n by omega) (le_refl n) hshare hshare).1

/-! ## Fusing with nothing -/

/-- The candidates of a list alone. -/
theorem candidates_nil {α : Type} [Scalar α] (primary : Ledger Text (Ranked α)) :
    candidates primary [] = primary.map fun e =>
      (e.2.contribution, { e.2.result with fusionScore := some e.2.contribution }) := by
  simp only [candidates, Ledger.get?, List.filter_nil, List.map_nil, List.append_nil]
  rfl

/-- Ranks are in the range of doubles if their number is, with the constant. -/
theorem not_overflows {k : Int} {results : List (SearchResult Float)}
    (h : k + results.length < Number.overflow) : ¬ Overflows k results := by
  rintro ⟨before, r, after, rfl, _, hover⟩
  simp only [List.length_append, List.length_cons] at h
  omega

theorem not_overflows_nil {k : Int} : ¬ Overflows k [] := by
  rintro ⟨before, r, after, heq, _⟩
  simp at heq

/-- A list that is fused with nothing stays in its order, without later occurrences of entities. -/
theorem unfused_fuse_nil {f : RankFusion Float} (hk : 0 ≤ f.k)
    {primary fused : List (SearchResult Float)} {limit : Int}
    (h : f.fuse primary [] limit = .ok fused) :
    fused.map unfused = cut limit ((firsts primary).map unfused) := by
  unfold fuse at h
  obtain ⟨first, hfirst, h⟩ := bind_eq_ok.mp h
  obtain ⟨second, hsecond, h⟩ := bind_eq_ok.mp h
  cases hsecond
  cases h
  obtain ⟨horderly, hsorted⟩ := pairwise_ranked hk hfirst
  have hstays : sortDescending Scalar.less Scalar.isOrderly Prod.fst (candidates first []) =
      candidates first [] := by
    rw [candidates_nil]
    refine sortDescending_eq_self Scalar.less_goesBy _ (fun c hc => ?_) (List.pairwise_map.mpr ?_)
    · obtain ⟨e, he, rfl⟩ := List.mem_map.mp hc
      exact horderly e he
    · exact hsorted
  rw [hstays, candidates_nil, ← ranked_results hfirst]
  simp only [cut, List.map_take, List.map_map]
  rfl

end RankFusion

end EntitySearch
