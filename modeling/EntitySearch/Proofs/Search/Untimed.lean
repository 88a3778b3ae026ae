import EntitySearch.Proofs.Search.UnifiedSearch
/-!
# Searching without a time limit

Without a time limit all searches of a plan end, in whatever order and whatever goes on beside them
(`IndexPlan.Planned.hasEnded_untimed`), if the store never cancels. Searching the index then comes
to the results of all of them (`Searcher.outcome_untimed`).
-/

namespace EntitySearch

variable {σ ρ α : Type} [LogScalar α]

namespace IndexPlan

/-- What searching the index comes to when all searches have ended. -/
def whole (p : IndexPlan α) : List (SearchResult α) :=
  let all := p.searches.flatMap fun s => s.search.results
  if p.isSingle then all else SearchResult.rank p.limit all

namespace Planned

variable {adjuster : Adjuster α} {store : IndexStore α} {q : Query} {p : IndexPlan α}
  (hp : Planned adjuster store q p) (hstore : store.NeverCancels)

include hp hstore

theorem outcome_eq_whole {fanout : Fanout EntityType}
    (hended : ∀ s ∈ p.searches, fanout.hasEnded s.entityType = true) :
    p.outcome fanout = .ok p.whole := by
  have hall : p.ended fanout = p.searches := List.filter_eq_self.mpr hended
  unfold outcome collect whole
  rw [if_neg (by simp [hp.breaksOff_eq_false hstore]), hall]
  split <;> rfl

/-- Without a time limit all searches end, be there a source beside them or not. -/
theorem hasEnded_untimed {bound : Option Nat} (hbound : bound ≠ some 0)
    {source : Option (SourceSide ρ)} {waits : Nat} (hsource : Race.SourceWithin waits source)
    (now : Float) {s : SubSearch α} (hs : s ∈ p.searches) :
    (Race.run (p.race bound none) source waits now).1.fanout.hasEnded s.entityType = true := by
  have hplaces : (p.race bound none).bound ≠ some 0 := by
    unfold race
    simp only
    split
    · simp
    · exact hbound
  have hcalm : ∀ t, (p.race bound none).breaksOff t = false := hp.breaksOff_eq_false hstore
  have hjobs : (p.race bound none).jobs =
      p.searches.map fun s => (s.entityType, s.search.duration) := by
    simp [race, isIdle]
  obtain ⟨turns, pending, hpath, hend⟩ := Race.run_closed hplaces source waits now
    (by simp [Race.breakCost, hcalm]) hsource
  rcases hend with hbroken | ⟨_, hended | ⟨hlimit, _⟩ | hfails⟩
  · exact absurd hbroken (by simp [Race.not_broken (by rfl) hcalm hpath])
  · refine hended (s.entityType, s.search.duration) ?_
    rw [hjobs]
    exact List.mem_map_of_mem hs
  · cases hlimit
  · cases hfails

end Planned

end IndexPlan

namespace Searcher

/-- Searching the index without a time limit comes to the results of all its searches. -/
theorem outcome_untimed (x : Searcher σ α) (hstore : x.store.NeverCancels) {s : Strategy}
    {q : Query} {limit : Int} {p : IndexPlan α}
    (h : IndexPlan.ofStrategy x.adjuster x.store s q limit = .ok p) (now : Float) :
    (x.searchIndex s q limit none now).outcome = .ok p.whole := by
  have hp := IndexPlan.planned_ofStrategy h
  have hended : ∀ s ∈ p.searches, (Race.run (p.race x.limits.bound none)
      (none : Option (SourceSide Unit)) 0 now).1.fanout.hasEnded s.entityType = true := fun s hs =>
    hp.hasEnded_untimed hstore x.limits.bound_ne_zero (by simp [Race.SourceWithin]) now hs
  unfold searchIndex
  rw [h]
  exact hp.outcome_eq_whole hstore hended

end Searcher

end EntitySearch
