import EntitySearch.Proofs.Search.RacePhases
/-!
# How a search ends

At the end of a search every job has ended, or the time limit has passed, or the index side has
failed (`Race.run_closed`). What has ended stays ended, and once the index side is closed nothing
more ends (`Race.ended_suffix`, `Race.fanout_eq_of_closed`).
-/

namespace EntitySearch

namespace Race

variable {ι ρ : Type} [DecidableEq ι] {p : RacePlan ι}

/-! ## Breaking off -/

omit [DecidableEq ι] in
/-- The index side does not break the search off itself. -/
theorem keeps_broken : Keeps p fun x y : Race ι ρ => y.broken = x.broken where
  refl _ := rfl
  trans hxy hyz := hyz.trans hxy
  place _ := rfl
  queue _ _ := rfl
  start _ _ _ := rfl
  finish _ _ := rfl
  close _ := rfl

omit [DecidableEq ι] in
theorem broken_proceed (x : State ι ρ) : (proceed x).1.broken = x.1.broken := by
  unfold proceed
  split
  · split <;> rfl
  · rfl

theorem broken_act {turn : Turn ι} (hturn : turn ≠ .breakOff) (x : State ι ρ) :
    (act p turn x).1.broken = x.1.broken := by
  cases hindex : turn.isIndex with
  | true => exact keeps_broken.act hindex x
  | false =>
    cases turn with
    | openIndex => cases hindex
    | ask job => cases hindex
    | enter job => cases hindex
    | finish job => cases hindex
    | closeIndex => cases hindex
    | breakOff => exact absurd rfl hturn
    | openSource =>
      simp only [act, openSource]
      split
      · exact broken_proceed x
      · rfl
    | proceed => exact broken_proceed x
    | closeSource => rfl

/-- A search that neither fails as it begins nor is broken off by a job is never broken off. -/
theorem not_broken (hfails : p.fails = false) (hbreaks : ∀ job, p.breaksOff job = false)
    {source : Option (SourceSide ρ)} {turns : List (Float × Turn ι)} {y : Race ι ρ}
    {pending : Multiset (Turn ι)} (h : Path p source turns y pending) : y.broken = false := by
  -- breaking off is never pending either
  have hnever : y.broken = false ∧ .breakOff ∉ pending := by
    refine Agenda.Path.invariant (additive p)
      (I := fun _ (y : Race ι ρ) pending => y.broken = false ∧ .breakOff ∉ pending) ?_ ?_ ?_ h
    · refine ⟨rfl, ?_⟩
      cases source <;> simp [openings]
    · rintro _ s a turn ⟨hbroken, hmem⟩
      rw [Multiset.mem_cons, not_or] at hmem
      refine ⟨(broken_act (fun heq => hmem.1 heq.symm) (s, a)).trans hbroken, ?_⟩
      intro hnew
      rcases mem_pending_act p turn (s, a) hnew with hold | hbegets
      · exact hmem.2 hold
      · rcases hbegets.breaks rfl with hfailed | ⟨job, hjob⟩
        · exact absurd hfailed (by simp [hfails])
        · exact absurd hjob (by simp [hbreaks job])
    · rintro _ s turn others ⟨hbroken, hmem⟩ _
      exact ⟨hbroken, fun hin => hmem (Multiset.mem_cons_of_mem hin)⟩
  exact hnever.1

/-! ## Ends -/

/-- A search that is over, or has nothing left to do, is broken off or its index side is closed: all
jobs have ended, the time limit has passed, or the index side has failed as it began. -/
theorem closed_of_path (hbound : p.bound ≠ some 0) {source : Option (SourceSide ρ)}
    {turns : List (Float × Turn ι)} {y : Race ι ρ} {pending : Multiset (Turn ι)}
    (hpath : Path p source turns y pending) (hend : y.isOver = true ∨ pending = 0) :
    y.broken = true ∨ (y.indexOpen = false ∧ Done p turns y) := by
  have hphase := phase_of_path hbound hpath
  rcases hend with hover | hidle
  · cases hbroken : y.broken with
    | true => exact Or.inl rfl
    | false =>
      have hclosed : y.indexOpen = false := by
        simp only [isOver, hbroken, Bool.false_or, Bool.not_eq_true', Bool.or_eq_false_iff] at hover
        exact hover.1
      cases hphase with
      | waiting hopen => exact absurd hopen (by simp [hclosed])
      | working hopen => exact absurd hopen (by simp [hclosed])
      | closed _ hdone => exact Or.inr ⟨hclosed, hdone⟩
  · subst hidle
    cases hphase with
    | waiting _ _ hpending =>
      -- the beginning of the index side would still be pending
      have hmem : Turn.openIndex ∈ indexTurns (0 : Multiset (Turn ι)) := by
        rw [hpending]
        exact Multiset.mem_singleton_self _
      exact absurd (mem_indexTurns.mp hmem).1 (Multiset.notMem_zero _)
    | working hopen hjobs => exact absurd hopen (by simp [hjobs.closed_of_idle])
    | closed hclosed hdone => exact Or.inr ⟨hclosed, hdone⟩

/-- A search takes one of its paths and is broken off, or goes on until its index side is closed:
all jobs have ended, the time limit has passed, or the index side has failed as it began. -/
theorem run_closed (hbound : p.bound ≠ some 0) (source : Option (SourceSide ρ)) (waits : Nat)
    (now : Float) (hbreaks : (p.jobs.map fun entry => breakCost p entry.1).sum ≤ 1)
    (hsource : SourceWithin waits source) :
    ∃ turns pending, Path p source turns (run p source waits now).1 pending ∧
      ((run p source waits now).1.broken = true ∨
        ((run p source waits now).1.indexOpen = false ∧
          Done p turns (run p source waits now).1)) := by
  obtain ⟨turns, pending, hpath, hend⟩ := run_over p source waits now hbreaks hsource
  exact ⟨turns, pending, hpath, closed_of_path hbound hpath hend⟩

/-! ## What has ended stays -/

omit [DecidableEq ι] in
/-- What has ended goes before what ends next. -/
theorem keeps_ended :
    Keeps p fun x y : Race ι ρ => x.fanout.ended <:+ y.fanout.ended where
  refl _ := List.suffix_refl _
  trans hxy hyz := hxy.trans hyz
  place _ := List.suffix_refl _
  queue _ _ := List.suffix_refl _
  start _ _ _ := List.suffix_refl _
  finish job x := by
    unfold finish Fanout.leave
    split
    · rename_i hleave
      split at hleave <;> cases hleave <;> exact List.suffix_cons _ _
  close _ := List.suffix_refl _

theorem ended_act (turn : Turn ι) (x : State ι ρ) :
    x.1.fanout.ended <:+ (act p turn x).1.fanout.ended := by
  cases hindex : turn.isIndex with
  | true => exact keeps_ended.act hindex x
  | false => rw [(act_other (p := p) hindex x).1]

/-- On a path from any state, what has ended stays ended. -/
theorem ended_suffix {y : Race ι ρ} {before : Multiset (Turn ι)}
    {turns : List (Float × Turn ι)} {z : Race ι ρ} {after : Multiset (Turn ι)}
    (h : Agenda.Path (work p) y before turns z after) : y.fanout.ended <:+ z.fanout.ended := by
  refine Agenda.Path.invariant (additive p)
    (I := fun _ (z : Race ι ρ) _ => y.fanout.ended <:+ z.fanout.ended) (List.suffix_refl _) ?_ ?_ h
  · intro _ s a turn hsuffix
    exact hsuffix.trans (ended_act turn (s, a))
  · intro _ s turn others hsuffix _
    exact hsuffix

/-- Turns leave an index side that is closed as it is, unless it has yet to begin. -/
theorem act_closed {s : Race ι ρ} (hclosed : s.indexOpen = false) {turn : Turn ι}
    (hturn : turn ≠ .openIndex) (a : Agenda (Turn ι)) :
    (act p turn (s, a)).1.fanout = s.fanout ∧ (act p turn (s, a)).1.indexOpen = false := by
  have hother : turn.isIndex = false → (act p turn (s, a)).1.fanout = s.fanout ∧
      (act p turn (s, a)).1.indexOpen = false := by
    intro hindex
    obtain ⟨hfanout, hopen, _⟩ := act_other (p := p) hindex (s, a)
    exact ⟨hfanout, hopen.trans hclosed⟩
  cases turn with
  | openIndex => exact absurd rfl hturn
  | ask job =>
    simp only [act, hclosed]
    exact ⟨rfl, hclosed⟩
  | enter job =>
    simp only [act, hclosed]
    exact ⟨rfl, hclosed⟩
  | finish job =>
    simp only [act, hclosed]
    exact ⟨rfl, hclosed⟩
  | closeIndex => exact ⟨rfl, rfl⟩
  | breakOff => exact hother rfl
  | openSource => exact hother rfl
  | proceed => exact hother rfl
  | closeSource => exact hother rfl

/-- A side that is not yet to begin never is. -/
theorem openIndex_notMem_act (turn : Turn ι) {s : Race ι ρ} {a : Agenda (Turn ι)}
    (h : .openIndex ∉ turn ::ₘ a.pending) : .openIndex ∉ (act p turn (s, a)).2.pending := by
  intro hin
  rcases mem_pending_act p turn (s, a) hin with hold | hbegets
  · exact h (Multiset.mem_cons_of_mem hold)
  · exact hbegets.notIndex rfl

/-- On a path from a state in which the index side is closed, its jobs stay as they are. -/
theorem fanout_eq_of_closed {y : Race ι ρ} {before : Multiset (Turn ι)}
    (hclosed : y.indexOpen = false) (hbegun : .openIndex ∉ before)
    {turns : List (Float × Turn ι)} {z : Race ι ρ} {after : Multiset (Turn ι)}
    (h : Agenda.Path (work p) y before turns z after) : z.fanout = y.fanout := by
  -- the index side stays closed and never begins again
  have hstill : z.fanout = y.fanout ∧ z.indexOpen = false ∧ .openIndex ∉ after := by
    refine Agenda.Path.invariant (additive p) (I := fun _ (z : Race ι ρ) after =>
      z.fanout = y.fanout ∧ z.indexOpen = false ∧ .openIndex ∉ after) ⟨rfl, hclosed, hbegun⟩ ?_ ?_ h
    · rintro _ s a turn ⟨hfanout, hshut, hmem⟩
      have hturn : turn ≠ .openIndex := by
        rintro rfl
        exact hmem (Multiset.mem_cons_self _ _)
      obtain ⟨hsame, hstays⟩ := act_closed (p := p) hshut hturn a
      exact ⟨hsame.trans hfanout, hstays, openIndex_notMem_act turn hmem⟩
    · rintro _ s turn others ⟨hfanout, hshut, hmem⟩ _
      exact ⟨hfanout, hshut, fun hin => hmem (Multiset.mem_cons_of_mem hin)⟩
  exact hstill.1

end Race

end EntitySearch
