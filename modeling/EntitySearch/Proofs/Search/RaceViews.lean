import EntitySearch.Search.Race
/-!
# What is said of a source

What is said of a source at its stages does not steer a search: two sources that wait alike take
their turns alike. Mapping it therefore commutes with every turn and with the search as a whole
(`Race.run_map`).
-/

namespace EntitySearch

/-! ## Rounds -/

namespace Agenda

variable {σ σ' τ : Type}

/-- A view of states goes with two ways of doing the work: each turn does the same to what is seen,
and what is seen tells which timers no longer matter and when all is over. -/
structure Work.Seen (w : Work σ τ) (w' : Work σ' τ) (view : σ → σ') : Prop where
  act : ∀ turn x, w'.act turn (view x.1, x.2) = Prod.map view id (w.act turn x)
  isStale : ∀ s turn, w'.isStale (view s) turn = w.isStale s turn
  isOver : ∀ s, w'.isOver (view s) = w.isOver s

namespace Work.Seen

variable {w : Work σ τ} {w' : Work σ' τ} {view : σ → σ'}

theorem foldl_act (h : w.Seen w' view) (turns : List τ) (x : σ × Agenda τ) :
    turns.foldl (fun x turn => w'.act turn x) (view x.1, x.2) =
      Prod.map view id (turns.foldl (fun x turn => w.act turn x) x) := by
  induction turns generalizing x with
  | nil => rfl
  | cons turn rest ih =>
    rw [List.foldl_cons, List.foldl_cons, h.act turn x]
    exact ih (w.act turn x)

theorem round (h : w.Seen w' view) (x : σ × Agenda τ) :
    Agenda.round w' (view x.1, x.2) = Prod.map view id (Agenda.round w x) := by
  have hstale : w'.isStale (view x.1) = w.isStale x.1 := funext (h.isStale x.1)
  unfold Agenda.round
  simp only [hstale]
  have hturns := h.foldl_act (x.2.advance (w.isStale x.1)).2.ready
    (x.1, { (x.2.advance (w.isStale x.1)).2 with ready := [] })
  simp only at hturns
  rw [hturns]
  rfl

theorem run (h : w.Seen w' view) (n : Nat) (x : σ × Agenda τ) :
    Agenda.run w' n (view x.1, x.2) = Prod.map view id (Agenda.run w n x) := by
  induction n generalizing x with
  | zero => rfl
  | succ n ih =>
    unfold Agenda.run
    rw [h.isOver x.1]
    split
    · rfl
    · rw [h.round x]
      exact ih (Agenda.round w x)

end Work.Seen

end Agenda

/-! ## Searches -/

/-- The same source, with something else said of it. -/
def SourceSide.map {ρ ρ' : Type} (f : ρ → ρ') (side : SourceSide ρ) : SourceSide ρ' :=
  ⟨f side.stage, side.next.map fun next now => (next now).map f⟩

namespace Race

variable {ι ρ ρ' : Type} [DecidableEq ι] (p : RacePlan ι)

/-- The same search, with something else said of its source. -/
def map (f : ρ → ρ') (x : Race ι ρ) : Race ι ρ' :=
  { fanout := x.fanout, indexOpen := x.indexOpen, source := x.source.map (SourceSide.map f)
    broken := x.broken }

/-- The same state, with something else said of the source. -/
abbrev State.map (f : ρ → ρ') (x : State ι ρ) : State ι ρ' := (x.1.map f, x.2)

variable (f : ρ → ρ')

omit [DecidableEq ι] in
theorem sourceOpen_map (x : Race ι ρ) : (x.map f).sourceOpen = x.sourceOpen := by
  rcases x with ⟨fanout, indexOpen, _ | ⟨stage, _ | next⟩, broken⟩ <;> rfl

omit [DecidableEq ι] in
theorem finish_map (job : ι) (x : State ι ρ) :
    finish p job (x.map f) = (finish p job x).map f := rfl

theorem enter_map (job : ι) (x : State ι ρ) : enter p job (x.map f) = (enter p job x).map f := by
  unfold enter
  simp only
  split
  · rfl
  · rfl

theorem ask_map (job : ι) (x : State ι ρ) : ask p job (x.map f) = (ask p job x).map f := by
  unfold ask
  -- places do not depend on the source
  have hroom : (x.map f).1.fanout = x.1.fanout := rfl
  rw [hroom]
  split
  · exact enter_map p f job ({ x.1 with fanout := x.1.fanout.enter }, x.2)
  · rfl

theorem foldl_ask_map (jobs : List (ι × Float)) (race : Race ι ρ) (agenda : Agenda (Turn ι)) :
    jobs.foldl (fun x entry => ask p entry.1 x) (race.map f, agenda) =
      State.map f (jobs.foldl (fun x entry => ask p entry.1 x) (race, agenda)) := by
  induction jobs generalizing race agenda with
  | nil => rfl
  | cons entry rest ih =>
    rw [List.foldl_cons, List.foldl_cons, ask_map p f entry.1 (race, agenda)]
    exact ih _ _

theorem openIndex_map (x : State ι ρ) : openIndex p (x.map f) = (openIndex p x).map f := by
  unfold openIndex
  split
  · rfl
  · split
    · rfl
    · simp only [foldl_ask_map]
      split
      · rfl
      · rfl

omit [DecidableEq ι] in
theorem proceed_map (x : State ι ρ) : proceed (x.map f) = (proceed x).map f := by
  rcases x with ⟨⟨fanout, indexOpen, _ | ⟨stage, _ | next⟩, broken⟩, agenda⟩
  · rfl
  · rfl
  · unfold proceed State.map map SourceSide.map
    simp only [Option.map_some]
    cases next agenda.now with
    | ended last => rfl
    | waits last seconds later => rfl

omit [DecidableEq ι] in
/-- A turn that matters only as long as the index side is at work. -/
theorem whileOpen_map {g : State ι ρ → State ι ρ} {g' : State ι ρ' → State ι ρ'} (x : State ι ρ)
    (h : g' (x.map f) = (g x).map f) :
    (if (x.map f).1.indexOpen then g' (x.map f) else x.map f) =
      State.map f (if x.1.indexOpen then g x else x) := by
  have hopen : (x.map f).1.indexOpen = x.1.indexOpen := rfl
  rw [hopen]
  split
  · exact h
  · rfl

theorem act_map (turn : Turn ι) (x : State ι ρ) : act p turn (x.map f) = (act p turn x).map f := by
  cases turn with
  | openIndex => exact openIndex_map p f x
  | ask job => exact whileOpen_map f x (ask_map p f job x)
  | enter job => exact whileOpen_map f x (enter_map p f job x)
  | finish job => exact whileOpen_map f x (finish_map p f job x)
  | closeIndex => rfl
  | breakOff => rfl
  | openSource =>
    unfold act openSource
    simp only
    split
    · exact proceed_map f x
    · rfl
  | proceed => exact proceed_map f x
  | closeSource =>
    rcases x with ⟨⟨fanout, indexOpen, _ | ⟨stage, next⟩, broken⟩, agenda⟩ <;> rfl

/-- What is said of a source is out of view of the search. -/
theorem seen : (work (ρ := ρ) p).Seen (work p) (map f) where
  act turn x := act_map p f turn x
  isStale x turn := by
    cases turn <;> simp only [work, isStale, sourceOpen_map] <;> rfl
  isOver x := by
    simp only [work, isOver, sourceOpen_map]
    rfl

/-- A search whose source has something else said of it is the same search but for what is said. -/
theorem run_map (source : Option (SourceSide ρ)) (waits : Nat) (now : Float) :
    run p (source.map (SourceSide.map f)) waits now =
      Prod.map (map f) id (run p source waits now) := by
  cases source with
  | none =>
    have hrun := (seen p f).run (rounds p waits)
      ({ fanout := { bound := p.bound }, source := none }, { now := now, ready := [.openIndex] })
    unfold run
    exact congrArg (fun x : State ι ρ' => (x.1, x.2.now)) hrun
  | some side =>
    have hrun := (seen p f).run (rounds p waits)
      ({ fanout := { bound := p.bound }, source := some side },
        { now := now, ready := [.openIndex, .openSource] })
    unfold run
    exact congrArg (fun x : State ι ρ' => (x.1, x.2.now)) hrun

end Race

end EntitySearch
