import EntitySearch.Proofs.Search.RacePhases
import EntitySearch.Search.Hybrid
/-!
# What a source comes to

Whatever holds at every stage of a source, whenever it goes on, holds of the stage that it has
reached at any point of a search (`Race.through_of_path`), and so of the one at which the search
leaves it (`Searcher.stage_run`).
-/

namespace EntitySearch

variable {ι ρ ρ' : Type}

/-- A run of a source has ended. -/
def SourceRun.HasEnded {σ α : Type} (run : SourceRun σ α) : Prop := run.outcome ≠ .pending

/-- A run of a source waits. -/
def SourceRun.IsPending {σ α : Type} (run : SourceRun σ α) : Prop := run.outcome = .pending

namespace Activity

/-- Whether an activity waits only at stages of one kind and ends at one of another, whenever it
goes on. -/
def Through (waiting last : ρ → Prop) : Activity ρ → Prop
  | ended stage => last stage
  | waits stage _ next => waiting stage ∧ ∀ now, (next now).Through waiting last

variable {waiting last : ρ → Prop}

theorem Through.stage {a : Activity ρ} (h : a.Through waiting last) :
    waiting a.stage ∨ last a.stage := by
  cases a with
  | ended s => exact Or.inr h
  | waits s seconds next => exact Or.inl h.1

/-- An activity by itself comes to its last stage. -/
theorem Through.alone {a : Activity ρ} (h : a.Through waiting last) (now : Float) :
    last (a.alone now).1 := by
  induction a generalizing now with
  | ended s => exact h
  | waits s seconds next ih => exact ih _ (h.2 _) _

theorem Through.map {waiting' last' : ρ' → Prop} {f : ρ → ρ'} {a : Activity ρ}
    (h : a.Through waiting last) (hwaiting : ∀ s, waiting s → waiting' (f s))
    (hlast : ∀ s, last s → last' (f s)) : (a.map f).Through waiting' last' := by
  induction a with
  | ended s => exact hlast s h
  | waits s seconds next ih => exact ⟨hwaiting s h.1, fun now => ih now (h.2 now)⟩

end Activity

/-- The same of a source: the stage that it has reached, and those that follow. -/
def SourceSide.Through (waiting last : ρ → Prop) (side : SourceSide ρ) : Prop :=
  (waiting side.stage ∨ last side.stage) ∧
    ∀ next ∈ side.next, ∀ now, (next now).Through waiting last

namespace Race

variable [DecidableEq ι] (p : RacePlan ι) {waiting last : ρ → Prop}

omit [DecidableEq ι] in
theorem through_proceed {x : State ι ρ} (h : ∀ side ∈ x.1.source, side.Through waiting last) :
    ∀ side ∈ (proceed x).1.source, side.Through waiting last := by
  unfold proceed
  split
  · rename_i stage next hsource
    have hnext := (h _ hsource).2 next rfl x.2.now
    split
    · rename_i ended hstep
      rw [hstep] at hnext
      rintro side ⟨rfl⟩
      exact ⟨Or.inr hnext, by simp⟩
    · rename_i stage seconds later hstep
      rw [hstep] at hnext
      rintro side ⟨rfl⟩
      refine ⟨Or.inl hnext.1, ?_⟩
      rintro next ⟨rfl⟩
      exact hnext.2
  · exact h

/-- A turn leads the source from stage to stage, gives it up, or leaves it alone. -/
theorem through_act (turn : Turn ι) {x : State ι ρ}
    (h : ∀ side ∈ x.1.source, side.Through waiting last) :
    ∀ side ∈ (act p turn x).1.source, side.Through waiting last := by
  cases hindex : turn.isIndex with
  | true =>
    rw [(keeps_source p).act hindex x]
    exact h
  | false =>
    cases turn with
    | openIndex => cases hindex
    | ask job => cases hindex
    | enter job => cases hindex
    | finish job => cases hindex
    | closeIndex => cases hindex
    | breakOff => exact h
    | openSource =>
      simp only [act, openSource]
      split
      · exact through_proceed h
      · exact h
    | proceed => exact through_proceed h
    | closeSource =>
      simp only [act, Option.mem_def, Option.map_eq_some_iff]
      rintro side ⟨before, hbefore, rfl⟩
      exact ⟨(h before hbefore).1, by simp⟩

variable {p} {source : Option (SourceSide ρ)}
  (hsource : ∀ side ∈ source, side.Through waiting last)

include hsource

theorem through_of_path {turns : List (Float × Turn ι)} {y : Race ι ρ}
    {pending : Multiset (Turn ι)} (h : Path p source turns y pending) :
    ∀ side ∈ y.source, side.Through waiting last := by
  refine Agenda.Path.invariant (additive p)
    (I := fun _ (y : Race ι ρ) _ => ∀ side ∈ y.source, side.Through waiting last) hsource ?_ ?_ h
  · intro _ s a turn hs
    exact through_act p turn (x := (s, a)) hs
  · intro _ s turn others hs _
    exact hs

theorem through_run (waits : Nat) (now : Float) :
    ∀ side ∈ (run p source waits now).1.source, side.Through waiting last := by
  obtain ⟨turns, hpath⟩ := exists_path p source waits now
  exact through_of_path hsource hpath

end Race

namespace Searcher

variable {σ α : Type} [SemanticSource σ α] {source : σ} {s : Strategy} {q : Query} {limit : Int}
  {P : SourceRun σ α → Prop}

/-- What holds of a source before it is asked and at every stage of its search holds of it when the
search as a whole is over. -/
theorem stage_run (hpending : P ⟨source, .pending, []⟩)
    (hsearch : ∀ now, (SemanticSource.search source q limit s.type? now).Through P P)
    (p : RacePlan EntityType) (timeout : Option Float) (waits : Nat) (now : Float) :
    P ((Race.run p (some (sourceSide source s q limit timeout)) waits now).1.source.getD
      (sourceSide source s q limit timeout)).stage := by
  have hside : (sourceSide source s q limit timeout).Through P P := by
    have hasked : ∀ next ∈ some (SemanticSource.search source q limit s.type?), ∀ now,
        (next now).Through P P := by
      rintro next ⟨rfl⟩
      exact hsearch
    unfold sourceSide
    split
    · split
      · exact ⟨Or.inl hpending, by simp⟩
      · exact ⟨Or.inl hpending, hasked⟩
    · exact ⟨Or.inl hpending, hasked⟩
  have hstart : ∀ side ∈ some (sourceSide source s q limit timeout), side.Through P P := by
    rintro side ⟨rfl⟩
    exact hside
  have hrun := Race.through_run (p := p) hstart waits now
  cases hlast : (Race.run p (some (sourceSide source s q limit timeout)) waits now).1.source with
  | none => exact hside.1.elim id id
  | some side => exact (hrun side hlast).1.elim id id

end Searcher

end EntitySearch
