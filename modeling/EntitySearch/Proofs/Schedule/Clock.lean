import EntitySearch.Proofs.Number.Plain
import EntitySearch.Proofs.Schedule.Agenda
import EntitySearch.Proofs.Schedule.Heap
/-!
# Rounds on the clock

On a path turns come at any moments. `Agenda.Timed` keeps to the clock: a turn comes when its moment
has come, or is due by less than the leeway, and the clock goes on only as far as nothing that waits
is passed by. What holds on every such path holds of rounds whose moments are numbers
(`Agenda.run_timed`): the clock jumps to the root of the timers, which is the first of all.
-/

namespace EntitySearch

/-- Timers that grow by numbers stay in order. -/
theorem Timers.InOrder.grows {τ : Type} {t t' : Timers τ} (h : t.InOrder) (hgrows : t.Grows t')
    (hnumbers : ∀ entry ∈ t'.bag, Scalar.isOrderly entry.1 = true) : t'.InOrder := by
  induction hgrows with
  | refl => exact h
  | push entry _ ih =>
    rw [Timers.bag_push] at hnumbers
    have hbefore := ih fun other hother => hnumbers other (Multiset.mem_cons_of_mem hother)
    exact hbefore.push (hnumbers entry (Multiset.mem_cons_self _ _))

namespace Agenda

variable {σ τ : Type}

/-- What was set at a moment for another one comes when the clock shows a third, which is a number:
it is due, and it has not been passed by since it was set. -/
structure OnTime (since moment now : Float) : Prop where
  clock : Number.Plain now
  due : isDue now moment = true
  passed : now = since ∨ ¬ moment < now

@[simp] theorem isDue_self (now : Float) : isDue now now = true := by
  simp [isDue, not_lt_self]

theorem onTime_self {now : Float} (hnow : Number.Plain now) : OnTime now now now :=
  ⟨hnow, isDue_self now, Or.inl rfl⟩

/-- Paths on the clock, from a state with what waits in it: the turns that are had, each with its
moment, where they lead, and what the clock shows then. -/
inductive Timed (w : Work σ τ) (s : σ) (start : Float) (p : Multiset (Float × τ)) :
    List (Float × τ) → σ → Float → Multiset (Float × τ) → Prop
  | start : Timed w s start p [] s start p
  /-- The clock goes on, and nothing that waits is passed by. -/
  | wait {turns : List (Float × τ)} {s' : σ} {now : Float} {p' : Multiset (Float × τ)}
      (later : Float) : Timed w s start p turns s' now p' → now < later →
      (∀ entry ∈ p', ¬ entry.1 < later) → Timed w s start p turns s' later p'
  /-- Something that is due has its turn. -/
  | turn {turns : List (Float × τ)} {s' : σ} {now moment : Float} {work : τ}
      {others : Multiset (Float × τ)} :
      Timed w s start p turns s' now ((moment, work) ::ₘ others) → isDue now moment = true →
      Timed w s start p (turns ++ [(now, work)]) (w.act work (s', { now := now })).1 now
        (others + (w.act work (s', { now := now })).2.awaits)
  /-- Something that no longer matters is dropped. -/
  | drop {turns : List (Float × τ)} {s' : σ} {now moment : Float} {work : τ}
      {others : Multiset (Float × τ)} :
      Timed w s start p turns s' now ((moment, work) ::ₘ others) → w.isStale s' work = true →
      Timed w s start p turns s' now others

section Paths

variable {w : Work σ τ} {s : σ} {start : Float} {p : Multiset (Float × τ)}

/-- A path on the clock is a path. -/
theorem Timed.path {turns : List (Float × τ)} {s' : σ} {now : Float} {p' : Multiset (Float × τ)}
    (h : Timed w s start p turns s' now p') :
    Path w s (p.map Prod.snd) turns s' (p'.map Prod.snd) := by
  induction h with
  | start => exact .start
  | wait later _ _ _ ih => exact ih
  | @turn turns s' now moment work others _ _ ih =>
    rw [Multiset.map_cons] at ih
    rw [Multiset.map_add, map_snd_awaits]
    exact ih.turn now
  | drop _ hstale ih =>
    rw [Multiset.map_cons] at ih
    exact ih.drop hstale

/-- What holds at the start of paths on the clock, and is kept as the clock goes on, by turns and by
drops, holds on every such path. Turns may be looked at with whatever agenda holds what else
waits. -/
theorem Timed.invariant (hw : w.Additive)
    {I : List (Float × τ) → σ → Float → Multiset (Float × τ) → Prop} (hstart : I [] s start p)
    (hwait : ∀ turns s' now p' later, Timed w s start p turns s' now p' → I turns s' now p' →
      now < later → (∀ entry ∈ p', ¬ entry.1 < later) → I turns s' later p')
    (hturn : ∀ turns s' (a : Agenda τ) moment work,
      Timed w s start p turns s' a.now ((moment, work) ::ₘ a.awaits) →
      I turns s' a.now ((moment, work) ::ₘ a.awaits) → isDue a.now moment = true →
      I (turns ++ [(a.now, work)]) (w.act work (s', a)).1 a.now (w.act work (s', a)).2.awaits)
    (hdrop : ∀ turns s' now moment work others, I turns s' now ((moment, work) ::ₘ others) →
      w.isStale s' work = true → I turns s' now others)
    {turns : List (Float × τ)} {s' : σ} {now : Float} {p' : Multiset (Float × τ)}
    (h : Timed w s start p turns s' now p') : I turns s' now p' := by
  induction h with
  | start => exact hstart
  | wait later hpath hlater hpassed ih => exact hwait _ _ _ _ later hpath ih hlater hpassed
  | @turn turns s' now moment work others hpath hdue ih =>
    -- what else waits stands in the timers of an agenda on which the turn acts alike
    obtain ⟨entries, rfl⟩ := Quot.exists_rep others
    have hawaits : ({ now := now, timers := ⟨entries.toArray⟩ } : Agenda τ).awaits =
        Quot.mk _ entries := by
      simp [Agenda.awaits, Timers.bag]
    have hafter := hturn turns s' { now := now, timers := ⟨entries.toArray⟩ } moment work
      (by rw [hawaits]; exact hpath) (by rw [hawaits]; exact ih) hdue
    rw [(hw work).state, (hw work).awaits, hawaits] at hafter
    exact hafter
  | drop _ hstale ih => exact hdrop _ _ _ _ _ _ ih hstale

theorem Timed.dropAll {turns : List (Float × τ)} {s' : σ} {now : Float}
    {dropped : List (Float × τ)} {others : Multiset (Float × τ)}
    (h : Timed w s start p turns s' now (dropped + others))
    (hstale : ∀ entry ∈ dropped, w.isStale s' entry.2 = true) :
    Timed w s start p turns s' now others := by
  induction dropped with
  | nil => simpa using h
  | cons entry rest ih =>
    rw [← Multiset.cons_coe, Multiset.cons_add] at h
    exact ih (h.drop (hstale entry List.mem_cons_self))
      fun other hother => hstale other (List.mem_cons_of_mem _ hother)

/-! ## Rounds -/

/-- Doing one due thing after the other is a path on the clock, whatever else waits meanwhile. -/
theorem foldl_act_timed (hw : w.Additive) (entries : List (Float × τ)) {turns : List (Float × τ)}
    {s' : σ} {a : Agenda τ} {others : Multiset (Float × τ)}
    (h : Timed w s start p turns s' a.now (entries + (a.awaits + others)))
    (hdue : ∀ entry ∈ entries, isDue a.now entry.1 = true) :
    ∃ later s'' a', (entries.map Prod.snd).foldl (fun x work => w.act work x) (s', a) = (s'', a') ∧
      a'.now = a.now ∧ a.timers.Grows a'.timers ∧
      Timed w s start p later s'' a.now (a'.awaits + others) := by
  induction entries generalizing turns s' a with
  | nil => exact ⟨turns, s', a, rfl, rfl, .refl, by simpa using h⟩
  | cons entry rest ih =>
    rw [← Multiset.cons_coe, Multiset.cons_add] at h
    -- what the turn adds goes to the agenda, the turns after it still wait
    have hturn := h.turn (hdue entry List.mem_cons_self)
    rw [← (hw entry.2).state s' a, add_assoc, add_right_comm, ← (hw entry.2).awaits s' a] at hturn
    have hnow := (hw entry.2).now s' a
    rw [← hnow] at hturn
    obtain ⟨later, s'', a', hfold, hnow', hgrows, htimed⟩ := ih hturn fun other hother => by
      rw [hnow]
      exact hdue other (List.mem_cons_of_mem _ hother)
    rw [hnow] at hnow' htimed
    exact ⟨later, s'', a', hfold, hnow', ((hw entry.2).timers s' a).trans hgrows, htimed⟩

/-- An agenda holds what waits: what is ready is due, and the timers are in order. -/
structure Holds (a : Agenda τ) (awaited : Multiset (Float × τ)) : Prop where
  exists_due : ∃ due : List (Float × τ), due.map Prod.snd = a.ready ∧
    (∀ entry ∈ due, isDue a.now entry.1 = true) ∧ awaited = due + a.timers.bag
  inOrder : a.timers.InOrder

/-- The agenda with which work begins holds what is ready for now. -/
theorem holds_ready (now : Float) (ready : List τ) :
    ({ now := now, ready := ready } : Agenda τ).Holds (ready.map fun work => (now, work)) := by
  refine ⟨⟨ready.map fun work => (now, work), by simp [Function.comp_def], ?_, ?_⟩, .empty⟩
  · intro entry hentry
    obtain ⟨work, _, rfl⟩ := List.mem_map.mp hentry
    exact isDue_self now
  · simp [Timers.bag]

/-- When a round begins the clock goes on as far as nothing that waits is passed by, and only if
nothing is ready. -/
theorem advance_timed (stale : τ → Bool) {a : Agenda τ} {due : List (Float × τ)}
    {turns : List (Float × τ)} {s' : σ} (hready : due.map Prod.snd = a.ready)
    (hdue : ∀ entry ∈ due, isDue a.now entry.1 = true) {live : Timers τ}
    (hlive : live = (a.timers.takeWhile fun entry => stale entry.2).2) (horder : live.InOrder)
    (h : Timed w s start p turns s' a.now (due + live.bag)) :
    Timed w s start p turns s' (a.advance stale).2.now (due + live.bag) ∧
      ∀ entry ∈ due, isDue (a.advance stale).2.now entry.1 = true := by
  unfold advance
  simp only [← hlive]
  split
  · rename_i entry hnone hfirst
    have hnil : due = [] := List.map_eq_nil_iff.mp (hready.trans hnone)
    subst hnil
    unfold jump
    split
    · rename_i hlt
      refine ⟨h.wait _ hlt ?_, by simp⟩
      intro other hother
      rw [Multiset.coe_nil, zero_add] at hother
      exact horder.first hfirst hother
    · exact ⟨h, by simp⟩
  · exact ⟨h, hdue⟩

/-- All that waits on any path on the clock waits for a moment that is a number. -/
def AllNumbers (w : Work σ τ) (s : σ) (start : Float) (p : Multiset (Float × τ)) : Prop :=
  ∀ turns s' now p', Timed w s start p turns s' now p' →
    ∀ entry ∈ p', Scalar.isOrderly entry.1 = true

variable (hw : w.Additive) (hnumbers : AllNumbers w s start p)

include hw hnumbers

theorem round_timed {turns : List (Float × τ)} {x : σ × Agenda τ} {awaited : Multiset (Float × τ)}
    (h : Timed w s start p turns x.1 x.2.now awaited) (hholds : x.2.Holds awaited) :
    ∃ later awaited', Timed w s start p later (round w x).1 (round w x).2.now awaited' ∧
      (round w x).2.Holds awaited' := by
  obtain ⟨⟨due, hready, hdue, rfl⟩, horder⟩ := hholds
  obtain ⟨live, hlive⟩ : ∃ live, live =
      (x.2.timers.takeWhile fun entry => w.isStale x.1 entry.2).2 := ⟨_, rfl⟩
  have hliveOrder : live.InOrder := hlive ▸ horder.takeWhile _
  -- what no longer matters is dropped, and the clock goes on
  have hdropped : Timed w s start p turns x.1 x.2.now (due + live.bag) := by
    rw [Timers.bag_takeWhile (fun entry => w.isStale x.1 entry.2), ← hlive, add_left_comm] at h
    exact h.dropAll (Timers.forall_mem_takeWhile _ _)
  obtain ⟨hnow, hdueNow⟩ := advance_timed (w.isStale x.1) hready hdue hlive hliveOrder hdropped
  obtain ⟨now, hnowEq⟩ : ∃ now, now = (x.2.advance (w.isStale x.1)).2.now := ⟨_, rfl⟩
  rw [← hnowEq] at hnow hdueNow
  -- what was waiting for this moment goes off, the rest stays in the timers
  obtain ⟨went, rest, hwent⟩ : ∃ went rest,
      live.takeWhile (fun entry => isDue now entry.1) = (went, rest) := ⟨_, _, rfl⟩
  have hbag := Timers.bag_takeWhile (fun entry => isDue now entry.1) live
  have hgone := Timers.forall_mem_takeWhile (fun entry => isDue now entry.1) live
  have hrest := hliveOrder.takeWhile fun entry => isDue now entry.1
  rw [hwent] at hbag hgone hrest
  have hadvance : x.2.advance (w.isStale x.1) =
      (went.map Prod.snd, { x.2 with now := now, timers := rest }) := by
    have hsplit : x.2.advance (w.isStale x.1) =
        ((live.takeWhile fun entry => isDue now entry.1).1.map Prod.snd,
          { x.2 with
            now := now
            timers := (live.takeWhile fun entry => isDue now entry.1).2 }) := by
      rw [hnowEq, hlive]
      rfl
    rw [hsplit, hwent]
  have hwaiting : Timed w s start p turns x.1 now (due +
      (({ now := now, timers := rest } : Agenda τ).awaits + (went : Multiset (Float × τ)))) := by
    rw [hbag, add_comm (went : Multiset (Float × τ))] at hnow
    simpa [awaits] using hnow
  obtain ⟨later, s'', a', hfold, hnow', hgrows, htimed⟩ :=
    foldl_act_timed hw due (a := { now := now, timers := rest }) hwaiting hdueNow
  rw [hready] at hfold
  have hround : round w x = (s'', { a' with ready := a'.ready ++ went.map Prod.snd }) := by
    unfold round
    simp only [hadvance, hfold]
  rw [hround]
  refine ⟨later, _, by simpa only [hnow'] using htimed, ⟨?_, ?_⟩⟩
  · refine ⟨(a'.ready.map fun work => (a'.now, work)) ++ went, ?_, ?_, ?_⟩
    · simp [Function.comp_def]
    · intro entry hentry
      rcases List.mem_append.mp hentry with hnew | hold
      · obtain ⟨work, _, rfl⟩ := List.mem_map.mp hnew
        exact isDue_self _
      · simp only [hnow']
        exact hgone entry hold
    · simp only [awaits, ← Multiset.coe_add]
      rw [add_right_comm]
  · refine hrest.grows hgrows fun entry hentry => hnumbers _ _ _ _ htimed entry ?_
    exact Multiset.mem_add.mpr (Or.inl (Multiset.mem_add.mpr (Or.inr hentry)))

/-- Rounds keep to the clock, if all moments are numbers. -/
theorem run_timed (n : ℕ) {turns : List (Float × τ)} {x : σ × Agenda τ}
    {awaited : Multiset (Float × τ)} (h : Timed w s start p turns x.1 x.2.now awaited)
    (hholds : x.2.Holds awaited) :
    ∃ later awaited', Timed w s start p later (run w n x).1 (run w n x).2.now awaited' ∧
      (run w n x).2.Holds awaited' := by
  induction n generalizing turns x awaited with
  | zero => exact ⟨turns, awaited, h, hholds⟩
  | succ n ih =>
    unfold run
    split
    · exact ⟨turns, awaited, h, hholds⟩
    · obtain ⟨later, awaited', hround, hholds'⟩ := round_timed hw hnumbers h hholds
      exact ih hround hholds'

end Paths

end Agenda

end EntitySearch
