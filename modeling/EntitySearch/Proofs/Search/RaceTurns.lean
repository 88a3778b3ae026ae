import EntitySearch.Proofs.Schedule.Agenda
import EntitySearch.Search.Race
/-!
# The turns of a search

The turns of a search only add to its agenda (`Race.additive`), so its rounds are paths, and every
turn is paid for by what it takes away (`Race.paid`), so that the rounds that a search is given are
enough (`Race.run_over`).
-/

namespace EntitySearch

/-- Whether an activity waits at most so often, whenever it goes on. -/
def Activity.Within {ρ : Type} : Nat → Activity ρ → Prop
  | _, .ended _ => True
  | 0, .waits _ _ _ => False
  | n + 1, .waits _ _ next => ∀ now, (next now).Within n

/-- Whether a turn belongs to the index side. -/
def Turn.isIndex {ι : Type} : Turn ι → Bool
  | .openIndex | .ask _ | .enter _ | .finish _ | .closeIndex => true
  | .breakOff | .openSource | .proceed | .closeSource => false

namespace Race

variable {ι ρ : Type} [DecidableEq ι] (p : RacePlan ι)

/-! ## Adding to the agenda -/

omit [DecidableEq ι] in
/-- Changing the state of a search adds nothing. -/
theorem adds_change (g : Float → Race ι ρ → Race ι ρ) :
    Agenda.Adds fun x : State ι ρ => (g x.2.now x.1, x.2) :=
  Agenda.Adds.change g

omit [DecidableEq ι] in
theorem adds_finish (job : ι) : Agenda.Adds (finish (ρ := ρ) p job) := by
  refine ⟨fun s a => rfl, ?_, ?_, ?_⟩
  · intro s a
    unfold finish
    -- the call of the first in line, and breaking off, are added or not
    rcases s.fanout.leave a.now job with ⟨_ | other, fanout⟩
    · cases p.breaksOff job <;> simp [-Multiset.cons_zero]
    · cases p.breaksOff job <;> simp [-Multiset.cons_zero]
  · intro s a
    unfold finish
    rcases s.fanout.leave a.now job with ⟨_ | other, fanout⟩
    · cases p.breaksOff job <;> exact .refl
    · cases p.breaksOff job <;> exact .refl
  · intro s a
    unfold finish
    rcases s.fanout.leave a.now job with ⟨_ | other, fanout⟩
    · cases p.breaksOff job <;> rfl
    · cases p.breaksOff job <;> rfl

theorem adds_enter (job : ι) : Agenda.Adds (enter (ρ := ρ) p job) := by
  have hstart := adds_change fun now (s : Race ι ρ) =>
    { s with fanout := s.fanout.start now job }
  by_cases hpause : (pauseOf p job == 0) = true
  · have heq : enter (ρ := ρ) p job = fun x =>
        finish p job ({ x.1 with fanout := x.1.fanout.start x.2.now job }, x.2) := by
      funext x
      exact if_pos hpause
    rw [heq]
    exact (adds_finish p job).comp hstart
  · have heq : enter (ρ := ρ) p job = fun x =>
        ({ x.1 with fanout := x.1.fanout.start x.2.now job },
          x.2.rest (pauseOf p job) (.finish job)) := by
      funext x
      exact if_neg hpause
    rw [heq]
    exact (Agenda.Adds.rest (pauseOf p job) (.finish job)).comp hstart

theorem adds_ask (job : ι) : Agenda.Adds (ask (ρ := ρ) p job) := by
  have hcases : ∀ room : Bool, Agenda.Adds fun x : State ι ρ =>
      if room then enter p job ({ x.1 with fanout := x.1.fanout.enter }, x.2)
      else ({ x.1 with fanout := x.1.fanout.queue job }, x.2) := by
    intro room
    cases room with
    | false =>
      exact adds_change fun _ (s : Race ι ρ) => { s with fanout := s.fanout.queue job }
    | true =>
      exact (adds_enter p job).comp
        (adds_change fun _ (s : Race ι ρ) => { s with fanout := s.fanout.enter })
  exact Agenda.Adds.choose (fun _ (s : Race ι ρ) => s.fanout.hasRoom) hcases

omit [DecidableEq ι] in
theorem awaits_foldl_soon (jobs : List (ι × Float)) (a : Agenda (Turn ι)) :
    (jobs.foldl (fun a entry => a.soon (.ask entry.1)) a).awaits =
      a.awaits + jobs.map fun entry => (a.now, Turn.ask entry.1) := by
  induction jobs generalizing a with
  | nil => simp
  | cons entry rest ih =>
    rw [List.foldl_cons, ih, Agenda.awaits_soon, List.map_cons, ← Multiset.cons_coe,
      Multiset.cons_add, Multiset.add_cons]
    rfl

omit [DecidableEq ι] in
theorem pending_foldl_soon (jobs : List (ι × Float)) (a : Agenda (Turn ι)) :
    (jobs.foldl (fun a entry => a.soon (.ask entry.1)) a).pending =
      a.pending + jobs.map fun entry => Turn.ask entry.1 := by
  rw [← Agenda.map_snd_awaits, awaits_foldl_soon, Multiset.map_add, Agenda.map_snd_awaits,
    Multiset.map_coe, List.map_map]
  rfl

omit [DecidableEq ι] in
theorem now_foldl_soon (jobs : List (ι × Float)) (a : Agenda (Turn ι)) :
    (jobs.foldl (fun a entry => a.soon (.ask entry.1)) a).now = a.now := by
  induction jobs generalizing a with
  | nil => rfl
  | cons entry rest ih => exact ih _

omit [DecidableEq ι] in
theorem timers_foldl_soon (jobs : List (ι × Float)) (a : Agenda (Turn ι)) :
    (jobs.foldl (fun a entry => a.soon (.ask entry.1)) a).timers = a.timers := by
  induction jobs generalizing a with
  | nil => rfl
  | cons entry rest ih => exact ih _

/-- The agenda once the time limit of the index side is set. -/
def withLimit (a : Agenda (Turn ι)) : Agenda (Turn ι) :=
  match p.timeout with
  | some seconds => a.wait seconds .closeIndex
  | none => a

omit [DecidableEq ι] in
theorem adds_withLimit : Agenda.Adds fun x : State ι ρ => (x.1, withLimit p x.2) := by
  unfold withLimit
  cases p.timeout with
  | none => exact adds_change fun _ (s : Race ι ρ) => s
  | some seconds => exact Agenda.Adds.wait seconds Turn.closeIndex

/-- Beginning the index side: it breaks off, has nothing to do, or its jobs ask for their places at
once or in the next round. -/
theorem openIndex_eq (x : State ι ρ) : openIndex p x =
    if p.fails then ({ x.1 with indexOpen := false }, x.2.soon .breakOff)
    else if p.jobs.isEmpty then ({ x.1 with indexOpen := false }, x.2)
    else if p.direct then p.jobs.foldl (fun x entry => ask p entry.1 x) (x.1, withLimit p x.2)
    else (x.1, p.jobs.foldl (fun a entry => a.soon (.ask entry.1)) (withLimit p x.2)) := rfl

theorem adds_openIndex : Agenda.Adds (openIndex (ρ := ρ) p) := by
  have hclose := adds_change fun _ (s : Race ι ρ) => { s with indexOpen := false }
  rw [funext (openIndex_eq p)]
  cases p.fails with
  | true => exact (Agenda.Adds.soon Turn.breakOff).comp hclose
  | false =>
    cases p.jobs.isEmpty with
    | true => exact hclose
    | false =>
      cases p.direct with
      | true =>
        have hask : ∀ entry : ι × Float, Agenda.Adds (ask (ρ := ρ) p entry.1) :=
          fun entry => adds_ask p entry.1
        have hasks := (Agenda.Adds.foldl hask p.jobs).comp (adds_withLimit p)
        exact hasks
      | false =>
        have hasks : Agenda.Adds fun x : State ι ρ =>
            (x.1, p.jobs.foldl (fun a entry => a.soon (.ask entry.1)) x.2) :=
          Agenda.Adds.more (fun a => p.jobs.foldl (fun a entry => a.soon (Turn.ask entry.1)) a)
            (fun now => p.jobs.map fun entry => (now, Turn.ask entry.1)) (awaits_foldl_soon p.jobs)
            (fun a => (timers_foldl_soon p.jobs a).symm ▸ .refl) (now_foldl_soon p.jobs)
        exact hasks.comp (adds_withLimit p)

omit [DecidableEq ι] in
theorem adds_proceed : Agenda.Adds (proceed (ι := ι) (ρ := ρ)) := by
  refine ⟨?_, ?_, ?_, ?_⟩
  · intro s a
    unfold proceed
    rcases s.source with _ | ⟨stage, _ | next⟩
    · rfl
    · rfl
    · simp only
      cases next a.now <;> rfl
  · intro s a
    unfold proceed
    rcases s.source with _ | ⟨stage, _ | next⟩
    · simp
    · simp
    · simp only
      cases next a.now <;> simp [-Multiset.cons_zero]
  · intro s a
    unfold proceed
    rcases s.source with _ | ⟨stage, _ | next⟩
    · exact .refl
    · exact .refl
    · simp only
      cases next a.now with
      | ended stage => exact .refl
      | waits stage seconds later => exact Agenda.grows_rest a seconds .proceed
  · intro s a
    unfold proceed
    rcases s.source with _ | ⟨stage, _ | next⟩
    · rfl
    · rfl
    · simp only
      cases next a.now <;> simp

omit [DecidableEq ι] in
theorem adds_openSource : Agenda.Adds (openSource (ρ := ρ) p) := by
  unfold openSource
  cases p.timeout with
  | none => exact adds_proceed
  | some seconds =>
    exact (Agenda.Adds.soon Turn.proceed).comp (Agenda.Adds.wait seconds Turn.closeSource)

omit [DecidableEq ι] in
/-- What is done only while the index side is at work. -/
theorem adds_whileOpen {f : State ι ρ → State ι ρ} (hf : Agenda.Adds f) :
    Agenda.Adds fun x => if x.1.indexOpen then f x else x := by
  have hcases : ∀ atWork : Bool, Agenda.Adds fun x : State ι ρ => if atWork then f x else x := by
    intro atWork
    cases atWork with
    | false => exact adds_change fun _ (s : Race ι ρ) => s
    | true => exact hf
  exact Agenda.Adds.choose (fun _ (s : Race ι ρ) => s.indexOpen) hcases

/-- Every turn only adds to the agenda. -/
theorem additive : (work (ρ := ρ) p).Additive := by
  intro turn
  cases turn with
  | openIndex => exact adds_openIndex p
  | ask job => exact adds_whileOpen (adds_ask p job)
  | enter job => exact adds_whileOpen (adds_enter p job)
  | finish job => exact adds_whileOpen (adds_finish p job)
  | closeIndex => exact adds_change fun _ (s : Race ι ρ) => { s with indexOpen := false }
  | breakOff => exact adds_change fun _ (s : Race ι ρ) => { s with broken := true }
  | openSource => exact adds_openSource p
  | proceed => exact adds_proceed
  | closeSource =>
    exact adds_change fun _ (s : Race ι ρ) =>
      { s with source := s.source.map fun side => { side with next := none } }

/-! ## What the index side keeps -/

/-- A relation between searches that holds from before to after whatever the index side does: a job
finds a place, stands in line, begins and ends, and the index side is closed. -/
structure Keeps (R : Race ι ρ → Race ι ρ → Prop) : Prop where
  refl : ∀ x, R x x
  trans : ∀ {x y z}, R x y → R y z → R x z
  place : ∀ x : Race ι ρ, R x { x with fanout := x.fanout.enter }
  queue : ∀ (x : Race ι ρ) job, R x { x with fanout := x.fanout.queue job }
  start : ∀ (x : Race ι ρ) now job, R x { x with fanout := x.fanout.start now job }
  finish : ∀ job (x : State ι ρ), R x.1 (finish p job x).1
  close : ∀ x : Race ι ρ, R x { x with indexOpen := false }

namespace Keeps

variable {p} {R : Race ι ρ → Race ι ρ → Prop} (h : Keeps p R)

include h

theorem enter (job : ι) (x : State ι ρ) : R x.1 (Race.enter p job x).1 := by
  unfold Race.enter
  simp only
  split
  · have hstart := h.start x.1 x.2.now job
    exact h.trans hstart (h.finish job ({ x.1 with fanout := x.1.fanout.start x.2.now job }, x.2))
  · exact h.start x.1 x.2.now job

theorem ask (job : ι) (x : State ι ρ) : R x.1 (Race.ask p job x).1 := by
  unfold Race.ask
  split
  · have hplace := h.place x.1
    exact h.trans hplace (h.enter job ({ x.1 with fanout := x.1.fanout.enter }, x.2))
  · exact h.queue x.1 job

theorem foldl_ask (jobs : List (ι × Float)) (x : State ι ρ) :
    R x.1 (jobs.foldl (fun x entry => Race.ask p entry.1 x) x).1 := by
  induction jobs generalizing x with
  | nil => exact h.refl x.1
  | cons entry rest ih => exact h.trans (h.ask entry.1 x) (ih _)

theorem openIndex (x : State ι ρ) : R x.1 (Race.openIndex p x).1 := by
  rw [openIndex_eq]
  split
  · exact h.close x.1
  · split
    · exact h.close x.1
    · split
      · exact h.foldl_ask p.jobs (x.1, withLimit p x.2)
      · exact h.refl x.1

/-- The turns of the index side keep what it keeps. -/
theorem act {turn : Turn ι} (hturn : turn.isIndex = true) (x : State ι ρ) :
    R x.1 (Race.act p turn x).1 := by
  cases turn with
  | openIndex => exact h.openIndex x
  | ask job =>
    simp only [Race.act]
    split
    · exact h.ask job x
    · exact h.refl x.1
  | enter job =>
    simp only [Race.act]
    split
    · exact h.enter job x
    · exact h.refl x.1
  | finish job =>
    simp only [Race.act]
    split
    · exact h.finish job x
    · exact h.refl x.1
  | closeIndex => exact h.close x.1
  | breakOff => cases hturn
  | openSource => cases hturn
  | proceed => cases hturn
  | closeSource => cases hturn

end Keeps

/-! ## What turns cost -/

/-- What the end of a job costs besides itself: whether it breaks the search off. -/
def breakCost (job : ι) : Nat := if p.breaksOff job then 1 else 0

/-- What a turn costs: itself, and what can come of it. -/
def cost : Turn ι → Nat
  | .openIndex => 3 + (p.jobs.map fun entry => 4 + breakCost p entry.1).sum
  | .ask job => 4 + breakCost p job
  | .enter job => 3 + breakCost p job
  | .finish job => 1 + breakCost p job
  | .openSource => 4
  | .closeIndex | .breakOff | .proceed | .closeSource => 1

/-- What those in line will cost when they are given a place. -/
def lineCost (x : Race ι ρ) : Nat := (x.fanout.line.map fun job => cost p (.enter job)).sum

/-- What the index side and the agenda cost. -/
def load (x : State ι ρ) : Nat := lineCost p x.1 + x.2.price (cost p)

omit [DecidableEq ι] in
theorem load_finish_le (job : ι) (x : State ι ρ) :
    load p (finish p job x) ≤ load p x + breakCost p job := by
  obtain ⟨⟨fanout, isOpen, source, broken⟩, a⟩ := x
  obtain ⟨bound, inside, line, started, ended⟩ := fanout
  unfold load lineCost finish breakCost
  cases line with
  | nil => cases p.breaksOff job <;> simp [Fanout.leave, cost]
  | cons first rest =>
    -- the first in line is called, which it has been charged for
    cases p.breaksOff job <;> simp [Fanout.leave, cost] <;> omega

theorem load_enter_le (job : ι) (x : State ι ρ) :
    load p (enter p job x) ≤ load p x + 2 + breakCost p job := by
  unfold enter
  simp only
  split
  · refine (load_finish_le p job _).trans ?_
    change load p x + breakCost p job ≤ _
    omega
  · have hrest := Agenda.price_rest_le (cost p) x.2 (pauseOf p job) (.finish job)
    have hcost : cost p (.finish job) = 1 + breakCost p job := rfl
    change lineCost p x.1 + (x.2.rest (pauseOf p job) (.finish job)).price (cost p) ≤ _
    unfold load
    omega

theorem load_ask_le (job : ι) (x : State ι ρ) :
    load p (ask p job x) ≤ load p x + 3 + breakCost p job := by
  unfold ask
  split
  · refine (load_enter_le p job _).trans ?_
    change load p x + 2 + breakCost p job ≤ _
    omega
  · simp [load, lineCost, Fanout.queue, cost]
    omega

theorem load_foldl_ask_le (jobs : List (ι × Float)) (x : State ι ρ) :
    load p (jobs.foldl (fun x entry => ask p entry.1 x) x) ≤
      load p x + (jobs.map fun entry => 4 + breakCost p entry.1).sum := by
  induction jobs generalizing x with
  | nil => simp
  | cons entry rest ih =>
    have hask := load_ask_le p entry.1 x
    have hrest := ih (ask p entry.1 x)
    simp only [List.foldl_cons, List.map_cons, List.sum_cons]
    omega

/-! ## Rounds that are enough -/

/-- Whether a source that goes on waits at most so often. -/
def SourceWithin (n : Nat) (source : Option (SourceSide ρ)) : Prop :=
  ∀ side ∈ source, ∀ next ∈ side.next, ∀ now, (next now).Within n

/-- What a search can still cost besides its agenda is at most so much. -/
def Held (x : Race ι ρ) (h : Nat) : Prop := ∃ n, SourceWithin n x.source ∧ lineCost p x + 2 * n ≤ h

omit [DecidableEq ι] in
/-- A turn that leaves the source alone is paid for if it adds less to the load than it costs. -/
theorem paid_of_load {turn : Turn ι} {x y : State ι ρ} {h : Nat} (hx : Held p x.1 h)
    (hsource : y.1.source = x.1.source) (hload : load p y + 1 ≤ load p x + cost p turn) :
    ∃ h', Held p y.1 h' ∧
      h' + y.2.price (cost p) + 1 ≤ h + x.2.price (cost p) + cost p turn := by
  obtain ⟨n, hn, hle⟩ := hx
  rw [← hsource] at hn
  refine ⟨lineCost p y.1 + 2 * n, ⟨n, hn, le_refl _⟩, ?_⟩
  unfold load at hload
  omega

omit [DecidableEq ι] in
/-- The index side leaves the source alone. -/
theorem keeps_source :
    Keeps p fun x y : Race ι ρ => y.source = x.source where
  refl _ := rfl
  trans hxy hyz := hyz.trans hxy
  place _ := rfl
  queue _ _ := rfl
  start _ _ _ := rfl
  finish _ _ := rfl
  close _ := rfl

omit [DecidableEq ι] in
/-- What a source costs when it goes on is covered by the waits that it has left. -/
theorem paid_proceed {x : State ι ρ} {h : Nat} (hx : Held p x.1 h) :
    ∃ h', Held p (proceed x).1 h' ∧
      h' + (proceed x).2.price (cost p) ≤ h + x.2.price (cost p) := by
  obtain ⟨n, hn, hle⟩ := hx
  unfold proceed
  split
  · rename_i stage next hsource
    have hnext := hn _ (by rw [hsource]; rfl) next rfl x.2.now
    split
    · rename_i ended _
      have hended : SourceWithin n (some (⟨ended, none⟩ : SourceSide ρ)) := by
        simp [SourceWithin]
      exact ⟨h, ⟨n, hended, hle⟩, le_refl _⟩
    · rename_i waiting seconds later hstep
      rw [hstep] at hnext
      cases n with
      | zero => exact absurd hnext (by simp [Activity.Within])
      | succ n =>
        unfold Activity.Within at hnext
        have hlater : SourceWithin n (some (⟨waiting, some later⟩ : SourceSide ρ)) := by
          simpa [SourceWithin] using hnext
        have hrest := Agenda.price_rest_le (cost p) x.2 seconds .proceed
        refine ⟨lineCost p x.1 + 2 * n, ⟨n, hlater, le_refl _⟩, ?_⟩
        simp only [cost] at hrest
        change lineCost p x.1 + 2 * n + (x.2.rest seconds .proceed).price (cost p) ≤ _
        omega
  · exact ⟨h, ⟨n, hn, hle⟩, le_refl _⟩

omit [DecidableEq ι] in
theorem price_withLimit_le (a : Agenda (Turn ι)) :
    (withLimit p a).price (cost p) ≤ a.price (cost p) + 2 := by
  unfold withLimit
  split
  · rw [Agenda.price_wait]
    exact le_refl _
  · omega

omit [DecidableEq ι] in
theorem price_foldl_soon (jobs : List (ι × Float)) (a : Agenda (Turn ι)) :
    (jobs.foldl (fun a entry => a.soon (.ask entry.1)) a).price (cost p) =
      a.price (cost p) + (jobs.map fun entry => 4 + breakCost p entry.1).sum := by
  induction jobs generalizing a with
  | nil => simp
  | cons entry rest ih =>
    rw [List.foldl_cons, ih, Agenda.price_soon, List.map_cons, List.sum_cons, Nat.add_assoc]
    rfl

theorem load_openIndex_le (x : State ι ρ) :
    load p (openIndex p x) + 1 ≤ load p x + cost p .openIndex := by
  have hlimit := price_withLimit_le p x.2
  have hcost : cost p .openIndex = 3 + (p.jobs.map fun entry => 4 + breakCost p entry.1).sum := rfl
  rw [openIndex_eq]
  split
  · change lineCost p x.1 + (x.2.soon .breakOff).price (cost p) + 1 ≤ _
    rw [Agenda.price_soon]
    simp only [load, cost]
    omega
  · split
    · change load p x + 1 ≤ _
      omega
    · split
      · refine (Nat.succ_le_succ (load_foldl_ask_le p p.jobs _)).trans ?_
        change lineCost p x.1 + (withLimit p x.2).price (cost p) + _ + 1 ≤ _
        unfold load
        omega
      · change lineCost p x.1 + Agenda.price (cost p) _ + 1 ≤ _
        rw [price_foldl_soon]
        unfold load
        omega

/-- Every turn is paid for. -/
theorem paid : (work (ρ := ρ) p).Paid (cost p) (Held p) := by
  intro turn x h hx
  have hpos : 1 ≤ cost p turn := by
    cases turn <;> simp only [cost] <;> omega
  -- a turn on a side that is no longer at work
  have hnothing : ∃ h', Held p x.1 h' ∧
      h' + x.2.price (cost p) + 1 ≤ h + x.2.price (cost p) + cost p turn :=
    ⟨h, hx, by omega⟩
  cases turn with
  | openIndex => exact paid_of_load p hx ((keeps_source p).openIndex x) (load_openIndex_le p x)
  | ask job =>
    simp only [work, act]
    split
    · refine paid_of_load p hx ((keeps_source p).ask job x)
        ((Nat.succ_le_succ (load_ask_le p job x)).trans ?_)
      simp only [cost]
      omega
    · exact hnothing
  | enter job =>
    simp only [work, act]
    split
    · refine paid_of_load p hx ((keeps_source p).enter job x)
        ((Nat.succ_le_succ (load_enter_le p job x)).trans ?_)
      simp only [cost]
      omega
    · exact hnothing
  | finish job =>
    simp only [work, act]
    split
    · refine paid_of_load p hx ((keeps_source p).finish job x)
        ((Nat.succ_le_succ (load_finish_le p job x)).trans ?_)
      simp only [cost]
      omega
    · exact hnothing
  | closeIndex => exact hnothing
  | breakOff => exact hnothing
  | openSource =>
    have hcost : cost p .openSource = 4 := rfl
    simp only [work, act, openSource]
    cases p.timeout with
    | none =>
      obtain ⟨h', hheld, hle⟩ := paid_proceed p hx
      exact ⟨h', hheld, by simp only; omega⟩
    | some seconds =>
      refine ⟨h, hx, ?_⟩
      simp only [Agenda.price_soon, Agenda.price_wait]
      simp only [cost]
      omega
  | proceed =>
    obtain ⟨h', hheld, hle⟩ := paid_proceed p hx
    exact ⟨h', hheld, Nat.succ_le_succ hle⟩
  | closeSource =>
    obtain ⟨n, hn, hle⟩ := hx
    refine ⟨h, ⟨n, ?_, hle⟩, ?_⟩
    swap
    · change h + x.2.price (cost p) + 1 ≤ _
      omega
    simp only [work, act, SourceWithin, Option.mem_def, Option.map_eq_some_iff]
    rintro side ⟨before, _, rfl⟩ next hnext
    cases hnext

/-- The turns with which a search begins. -/
def openings : Option (SourceSide ρ) → List (Turn ι)
  | some _ => [.openIndex, .openSource]
  | none => [.openIndex]

/-- The paths that a search can take: its turns in any order and at any moments. -/
def Path (source : Option (SourceSide ρ)) : List (Float × Turn ι) → Race ι ρ →
    Multiset (Turn ι) → Prop :=
  Agenda.Path (work p) { fanout := { bound := p.bound }, source := source }
    (openings source : List (Turn ι))

/-- How a search begins. -/
def opening (source : Option (SourceSide ρ)) (now : Float) : State ι ρ :=
  ({ fanout := { bound := p.bound }, source := source }, { now := now, ready := openings source })

omit [DecidableEq ι] in
theorem pending_opening (source : Option (SourceSide ρ)) (now : Float) :
    (opening p source now).2.pending = (openings source : List (Turn ι)) := by
  simp [opening, Agenda.pending, Timers.bag]

theorem run_eq (source : Option (SourceSide ρ)) (waits : Nat) (now : Float) :
    run p source waits now =
      ((Agenda.run (work p) (rounds p waits) (opening p source now)).1,
        (Agenda.run (work p) (rounds p waits) (opening p source now)).2.now) := by
  unfold run opening
  cases source <;> rfl

/-- A search takes one of its paths. -/
theorem exists_path (source : Option (SourceSide ρ)) (waits : Nat) (now : Float) :
    ∃ turns, Path p source turns (run p source waits now).1
      (Agenda.run (work p) (rounds p waits) (opening p source now)).2.pending := by
  obtain ⟨turns, hpath⟩ := Agenda.run_path (additive p) (rounds p waits)
    (x := opening p source now) .start
  rw [pending_opening] at hpath
  rw [run_eq]
  exact ⟨turns, hpath⟩

/-- A search takes one of its paths, until it is over or nothing is left to do, if at most one job
breaks it off and the source waits at most as often as is said. -/
theorem run_over (source : Option (SourceSide ρ)) (waits : Nat) (now : Float)
    (hbreaks : (p.jobs.map fun entry => breakCost p entry.1).sum ≤ 1)
    (hsource : SourceWithin waits source) :
    ∃ turns pending, Path p source turns (run p source waits now).1 pending ∧
      ((run p source waits now).1.isOver = true ∨ pending = 0) := by
  have hheld : Held p (opening p source now).1 (2 * waits) :=
    ⟨waits, hsource, by simp [lineCost, opening]⟩
  have hprice : 2 * waits + (opening p source now).2.price (cost p) ≤ rounds p waits := by
    have hjobs : (p.jobs.map fun entry => 4 + breakCost p entry.1).sum =
        4 * p.jobs.length + (p.jobs.map fun entry => breakCost p entry.1).sum := by
      rw [List.sum_map_add]
      simp [Nat.mul_comm]
    have hbag : (opening p source now).2.timers.bag.card = 0 := rfl
    unfold Agenda.price
    rw [pending_opening, hbag]
    cases source <;> simp [openings, cost, rounds, hjobs] <;> omega
  obtain ⟨turns, hpath⟩ := exists_path p source waits now
  refine ⟨turns, _, hpath, ?_⟩
  rw [run_eq]
  rcases Agenda.run_ends (paid p) (rounds p waits) hheld hprice with hover | hempty
  · exact Or.inl hover
  · exact Or.inr (Agenda.pending_eq_zero hempty)

end Race

end EntitySearch
