import EntitySearch.Proofs.Schedule.Timers
import EntitySearch.Schedule.Agenda
/-!
# Rounds as paths

A round does some of what is pending, in an order that depends on the clock. `Agenda.Path` leaves
this open: at any moment anything that is pending may have its turn, and what no longer matters may
be dropped. Whatever holds on every path therefore holds of rounds whatever the clock, the timers
and the leeway (`Agenda.run_path`).

Rounds come to an end because each of them has a turn or a timer. If every turn is paid for by what
it takes away, so many rounds are enough (`Agenda.run_ends`).
-/

namespace EntitySearch

namespace Agenda

variable {σ τ : Type}

/-! ## What is pending -/

/-- What is to be done, each with its moment, in no order; what is ready is for now. -/
def awaits (a : Agenda τ) : Multiset (Float × τ) :=
  (a.ready.map fun work => (a.now, work)) + a.timers.bag

/-- What is to be done now or at moments to come, in no order. -/
def pending (a : Agenda τ) : Multiset τ := a.ready + a.timers.bag.map Prod.snd

theorem map_snd_awaits (a : Agenda τ) : a.awaits.map Prod.snd = a.pending := by
  unfold awaits pending
  rw [Multiset.map_add, Multiset.map_coe, List.map_map]
  simp [Function.comp_def]

@[simp] theorem awaits_empty (now : Float) : ({ now := now } : Agenda τ).awaits = 0 := rfl

@[simp] theorem awaits_soon (a : Agenda τ) (work : τ) :
    (a.soon work).awaits = (a.now, work) ::ₘ a.awaits := by
  unfold soon awaits
  simp only [List.map_append, List.map_singleton, ← Multiset.coe_add, Multiset.coe_singleton]
  rw [add_right_comm, add_comm, Multiset.singleton_add]

@[simp] theorem awaits_wait (a : Agenda τ) (seconds : Float) (work : τ) :
    (a.wait seconds work).awaits = (a.now + seconds, work) ::ₘ a.awaits := by
  unfold wait awaits
  simp only [Timers.bag_push, Multiset.add_cons]

/-- The moment at which a rest is over. -/
def restUntil (now seconds : Float) : Float := if seconds ≤ 0 then now else now + seconds

@[simp] theorem awaits_rest (a : Agenda τ) (seconds : Float) (work : τ) :
    (a.rest seconds work).awaits = (restUntil a.now seconds, work) ::ₘ a.awaits := by
  unfold rest restUntil
  split
  · exact awaits_soon a work
  · exact awaits_wait a seconds work

@[simp] theorem pending_empty (now : Float) : ({ now := now } : Agenda τ).pending = 0 := rfl

@[simp] theorem pending_soon (a : Agenda τ) (work : τ) :
    (a.soon work).pending = work ::ₘ a.pending := by
  simp [← map_snd_awaits]

@[simp] theorem pending_wait (a : Agenda τ) (seconds : Float) (work : τ) :
    (a.wait seconds work).pending = work ::ₘ a.pending := by
  simp [← map_snd_awaits]

@[simp] theorem pending_rest (a : Agenda τ) (seconds : Float) (work : τ) :
    (a.rest seconds work).pending = work ::ₘ a.pending := by
  simp [← map_snd_awaits]

@[simp] theorem now_soon (a : Agenda τ) (work : τ) : (a.soon work).now = a.now := rfl

@[simp] theorem now_wait (a : Agenda τ) (seconds : Float) (work : τ) :
    (a.wait seconds work).now = a.now := rfl

@[simp] theorem now_rest (a : Agenda τ) (seconds : Float) (work : τ) :
    (a.rest seconds work).now = a.now := by
  unfold rest
  split <;> rfl

theorem pending_append (a : Agenda τ) (more : List τ) :
    { a with ready := a.ready ++ more }.pending = a.pending + more := by
  unfold pending
  simp only [← Multiset.coe_add]
  rw [add_right_comm]

/-- What is dropped from the timers when a round begins. -/
def dropped (stale : τ → Bool) (a : Agenda τ) : List τ :=
  (a.timers.takeWhile fun entry => stale entry.2).1.map Prod.snd

theorem stale_of_mem_dropped {stale : τ → Bool} {a : Agenda τ} {work : τ}
    (h : work ∈ a.dropped stale) : stale work = true := by
  obtain ⟨entry, hentry, rfl⟩ := List.mem_map.mp h
  exact Timers.forall_mem_takeWhile _ _ entry hentry

/-- What waits when a round begins is dropped, due or left for later. -/
theorem bag_advance (stale : τ → Bool) (a : Agenda τ) :
    a.timers.bag.map Prod.snd =
      a.dropped stale + ((a.advance stale).1 + (a.advance stale).2.timers.bag.map Prod.snd) := by
  rw [Timers.bag_takeWhile (fun entry => stale entry.2) a.timers,
    Timers.bag_takeWhile (fun entry => isDue (a.advance stale).2.now entry.1)
      (a.timers.takeWhile fun entry => stale entry.2).2, Multiset.map_add, Multiset.map_add]
  rfl

/-- Everything that is pending when a round begins is dropped, ready, left for later or due. -/
theorem pending_advance (stale : τ → Bool) (a : Agenda τ) :
    a.pending = a.dropped stale +
      (a.ready + ({ (a.advance stale).2 with ready := [] }.pending + (a.advance stale).1)) := by
  unfold pending
  rw [bag_advance stale, Multiset.coe_nil, zero_add, add_left_comm,
    add_comm (Multiset.map Prod.snd (a.advance stale).2.timers.bag)]

@[simp] theorem ready_advance (stale : τ → Bool) (a : Agenda τ) :
    (a.advance stale).2.ready = a.ready := rfl

/-! ## Paths -/

/-- Something that is done looks at the agenda for the moment only, and adds to it only. -/
structure Adds (f : σ × Agenda τ → σ × Agenda τ) : Prop where
  state : ∀ s a, (f (s, a)).1 = (f (s, { now := a.now })).1
  awaits : ∀ s a, (f (s, a)).2.awaits = a.awaits + (f (s, { now := a.now })).2.awaits
  timers : ∀ s (a : Agenda τ), a.timers.Grows (f (s, a)).2.timers
  now : ∀ s a, (f (s, a)).2.now = a.now

theorem Adds.pending {f : σ × Agenda τ → σ × Agenda τ} (hf : Adds f) (s : σ) (a : Agenda τ) :
    (f (s, a)).2.pending = a.pending + (f (s, { now := a.now })).2.pending := by
  rw [← map_snd_awaits, hf.awaits, Multiset.map_add, map_snd_awaits, map_snd_awaits]

/-- Changing the state, with a look at the moment, adds nothing. -/
theorem Adds.change (g : Float → σ → σ) :
    Adds fun x : σ × Agenda τ => (g x.2.now x.1, x.2) :=
  ⟨fun _ _ => rfl, fun s a => by simp, fun _ _ => .refl, fun _ _ => rfl⟩

/-- Adding some turns whatever the state. -/
theorem Adds.more (g : Agenda τ → Agenda τ) (new : Float → Multiset (Float × τ))
    (hawaits : ∀ a, (g a).awaits = a.awaits + new a.now)
    (htimers : ∀ a : Agenda τ, a.timers.Grows (g a).timers) (hnow : ∀ a, (g a).now = a.now) :
    Adds fun x : σ × Agenda τ => (x.1, g x.2) := by
  refine ⟨fun _ _ => rfl, ?_, fun _ a => htimers a, fun _ a => hnow a⟩
  intro s a
  simp only [hawaits, awaits_empty, zero_add]

theorem Adds.soon (work : τ) : Adds fun x : σ × Agenda τ => (x.1, x.2.soon work) :=
  Adds.more (fun a => a.soon work) (fun now => {(now, work)})
    (fun a => by rw [awaits_soon, add_comm, Multiset.singleton_add]) (fun _ => .refl) fun _ => rfl

theorem Adds.wait (seconds : Float) (work : τ) :
    Adds fun x : σ × Agenda τ => (x.1, x.2.wait seconds work) :=
  Adds.more (fun a => a.wait seconds work) (fun now => {(now + seconds, work)})
    (fun a => by rw [awaits_wait, add_comm, Multiset.singleton_add])
    (fun _ => .push _ .refl) fun _ => rfl

theorem grows_rest (a : Agenda τ) (seconds : Float) (work : τ) :
    a.timers.Grows (a.rest seconds work).timers := by
  unfold rest
  split
  · exact .refl
  · exact .push _ .refl

theorem Adds.rest (seconds : Float) (work : τ) :
    Adds fun x : σ × Agenda τ => (x.1, x.2.rest seconds work) :=
  Adds.more (fun a => a.rest seconds work) (fun now => {(restUntil now seconds, work)})
    (fun a => by rw [awaits_rest, add_comm, Multiset.singleton_add])
    (fun a => grows_rest a seconds work) fun a => now_rest a seconds work

/-- Choosing what to do by the moment and the state. -/
theorem Adds.choose {β : Type} (pick : Float → σ → β) {f : β → σ × Agenda τ → σ × Agenda τ}
    (hf : ∀ b, Adds (f b)) : Adds fun x => f (pick x.2.now x.1) x :=
  ⟨fun s a => (hf (pick a.now s)).state s a, fun s a => (hf (pick a.now s)).awaits s a,
    fun s a => (hf (pick a.now s)).timers s a, fun s a => (hf (pick a.now s)).now s a⟩

theorem Adds.comp {f g : σ × Agenda τ → σ × Agenda τ} (hg : Adds g) (hf : Adds f) :
    Adds fun x => g (f x) := by
  -- what the first part makes of the state does not depend on what is pending
  have hsame : ∀ s a, ((f (s, a)).1, ({ now := (f (s, a)).2.now } : Agenda τ)) =
      ((f (s, { now := a.now })).1, { now := (f (s, { now := a.now })).2.now }) := by
    intro s a
    rw [hf.state s a, hf.now, hf.now]
  refine ⟨?_, ?_, ?_, ?_⟩
  · intro s a
    calc (g (f (s, a))).1
        = (g ((f (s, a)).1, { now := (f (s, a)).2.now })).1 := hg.state _ _
      _ = (g ((f (s, { now := a.now })).1, { now := (f (s, { now := a.now })).2.now })).1 := by
          rw [hsame]
      _ = (g (f (s, { now := a.now }))).1 := (hg.state _ _).symm
  · intro s a
    calc (g (f (s, a))).2.awaits
        = (f (s, a)).2.awaits + (g ((f (s, a)).1, { now := (f (s, a)).2.now })).2.awaits :=
          hg.awaits _ _
      _ = a.awaits + ((f (s, { now := a.now })).2.awaits +
          (g ((f (s, { now := a.now })).1,
            { now := (f (s, { now := a.now })).2.now })).2.awaits) := by
          rw [hsame, hf.awaits s a, add_assoc]
      _ = a.awaits + (g (f (s, { now := a.now }))).2.awaits := by
          rw [← hg.awaits (f (s, { now := a.now })).1 (f (s, { now := a.now })).2]
  · intro s a
    exact (hf.timers s a).trans (hg.timers _ _)
  · intro s a
    exact (hg.now _ _).trans (hf.now s a)

theorem Adds.foldl {β : Type} {f : β → σ × Agenda τ → σ × Agenda τ} (hf : ∀ b, Adds (f b))
    (items : List β) : Adds fun x => items.foldl (fun x b => f b x) x := by
  induction items with
  | nil => exact ⟨fun _ _ => rfl, fun s a => by simp, fun _ _ => .refl, fun _ _ => rfl⟩
  | cons b rest ih => exact ih.comp (hf b)

/-- The turns of work only add to the agenda. -/
def Work.Additive (w : Work σ τ) : Prop := ∀ turn, Adds (w.act turn)

/-- Paths from a state with what is pending in it: the turns that are had, each with its moment, and
where they lead. -/
inductive Path (w : Work σ τ) (s : σ) (p : Multiset τ) : List (Float × τ) → σ → Multiset τ → Prop
  | start : Path w s p [] s p
  /-- Something that is pending has its turn at some moment. -/
  | turn {turns : List (Float × τ)} {s' : σ} {work : τ} {others : Multiset τ} (now : Float) :
    Path w s p turns s' (work ::ₘ others) →
    Path w s p (turns ++ [(now, work)]) (w.act work (s', { now := now })).1
      (others + (w.act work (s', { now := now })).2.pending)
  /-- Something that no longer matters is dropped. -/
  | drop {turns : List (Float × τ)} {s' : σ} {work : τ} {others : Multiset τ} :
    Path w s p turns s' (work ::ₘ others) → w.isStale s' work = true → Path w s p turns s' others

/-- The state to which turns lead, each at its moment. -/
def Work.after (w : Work σ τ) (s : σ) (turns : List (Float × τ)) : σ :=
  turns.foldl (fun s turn => (w.act turn.2 (s, { now := turn.1 })).1) s

theorem Work.after_append (w : Work σ τ) (s : σ) (turns : List (Float × τ)) (turn : Float × τ) :
    w.after s (turns ++ [turn]) = (w.act turn.2 (w.after s turns, { now := turn.1 })).1 := by
  unfold Work.after
  rw [List.foldl_append, List.foldl_cons, List.foldl_nil]

section Paths

variable {w : Work σ τ} {s : σ} {p : Multiset τ}

theorem Path.dropAll {turns : List (Float × τ)} {s' : σ} {dropped : List τ}
    {others : Multiset τ} (h : Path w s p turns s' (dropped + others))
    (hstale : ∀ work ∈ dropped, w.isStale s' work = true) : Path w s p turns s' others := by
  induction dropped with
  | nil => simpa using h
  | cons work rest ih =>
    rw [← Multiset.cons_coe, Multiset.cons_add] at h
    exact ih (h.drop (hstale work List.mem_cons_self))
      fun other hother => hstale other (List.mem_cons_of_mem _ hother)

/-- Doing one thing after the other is a path, whatever else is pending meanwhile. -/
theorem foldl_act_path (hw : w.Additive) (works : List τ) {turns : List (Float × τ)} {s' : σ}
    {a : Agenda τ} {others : Multiset τ}
    (h : Path w s p turns s' (works + (a.pending + others))) :
    ∃ later, Path w s p later (works.foldl (fun x work => w.act work x) (s', a)).1
      ((works.foldl (fun x work => w.act work x) (s', a)).2.pending + others) := by
  induction works generalizing turns s' a with
  | nil => exact ⟨turns, by simpa using h⟩
  | cons work rest ih =>
    rw [← Multiset.cons_coe, Multiset.cons_add] at h
    -- what the turn adds goes to the agenda, the turns after it stay pending
    have hturn := h.turn a.now
    rw [← (hw work).state s' a, add_assoc, add_right_comm, ← (hw work).pending s' a] at hturn
    exact ih hturn

theorem round_path (hw : w.Additive) {turns : List (Float × τ)} {x : σ × Agenda τ}
    (h : Path w s p turns x.1 x.2.pending) :
    ∃ later, Path w s p later (round w x).1 (round w x).2.pending := by
  rw [pending_advance (w.isStale x.1)] at h
  -- what is ready is done while what is due waits for the next round
  obtain ⟨later, hdone⟩ := foldl_act_path hw x.2.ready (h.dropAll fun _ => stale_of_mem_dropped)
  refine ⟨later, ?_⟩
  unfold round
  simp only [ready_advance, pending_append]
  exact hdone

theorem run_path (hw : w.Additive) (n : Nat) {turns : List (Float × τ)} {x : σ × Agenda τ}
    (h : Path w s p turns x.1 x.2.pending) :
    ∃ later, Path w s p later (run w n x).1 (run w n x).2.pending := by
  induction n generalizing turns x with
  | zero => exact ⟨turns, h⟩
  | succ n ih =>
    unfold run
    split
    · exact ⟨turns, h⟩
    · obtain ⟨later, hround⟩ := round_path hw h
      exact ih hround

/-- What holds at the start of paths and is kept by turns and drops holds on every path. Turns may
be looked at with whatever agenda holds what else is pending. -/
theorem Path.invariant (hw : w.Additive) {I : List (Float × τ) → σ → Multiset τ → Prop}
    (hstart : I [] s p)
    (hturn : ∀ turns s' (a : Agenda τ) work, I turns s' (work ::ₘ a.pending) →
      I (turns ++ [(a.now, work)]) (w.act work (s', a)).1 (w.act work (s', a)).2.pending)
    (hdrop : ∀ turns s' work others, I turns s' (work ::ₘ others) → w.isStale s' work = true →
      I turns s' others)
    {turns : List (Float × τ)} {s' : σ} {p' : Multiset τ} (h : Path w s p turns s' p') :
    I turns s' p' := by
  induction h with
  | start => exact hstart
  | @turn turns s' work others now _ ih =>
    -- the other turns are ready in an agenda on which the turn acts alike
    obtain ⟨ready, rfl⟩ := Quot.exists_rep others
    have hpending : ({ now := now, ready := ready } : Agenda τ).pending = Quot.mk _ ready := by
      simp [Agenda.pending, Timers.bag]
    have hafter := hturn turns s' { now := now, ready := ready } work (by rw [hpending]; exact ih)
    rw [(hw work).state, (hw work).pending, hpending] at hafter
    exact hafter
  | drop _ hstale ih => exact hdrop _ _ _ _ ih hstale

/-- A path is one part after another. -/
theorem Path.split {first later : List (Float × τ)} {s' : σ} {p' : Multiset τ}
    (h : Path w s p (first ++ later) s' p') :
    ∃ mid between, Path w s p first mid between ∧ Path w mid between later s' p' := by
  generalize hturns : first ++ later = turns at h
  induction h generalizing later with
  | start =>
    obtain ⟨rfl, rfl⟩ := List.append_eq_nil_iff.mp hturns
    exact ⟨s, p, .start, .start⟩
  | @turn turns s' work others now hbefore ih =>
    rcases List.eq_nil_or_concat later with rfl | ⟨rest, last, rfl⟩
    · -- nothing comes later
      rw [List.append_nil] at hturns
      rw [hturns]
      exact ⟨_, _, hbefore.turn now, .start⟩
    · rw [List.concat_eq_append, ← List.append_assoc] at hturns
      obtain ⟨rfl, hlast⟩ := List.append_inj' hturns rfl
      cases hlast
      obtain ⟨mid, between, hfirst, hlater⟩ := ih rfl
      rw [List.concat_eq_append]
      exact ⟨mid, between, hfirst, hlater.turn now⟩
  | drop _ hstale ih =>
    obtain ⟨mid, between, hfirst, hlater⟩ := ih hturns
    exact ⟨mid, between, hfirst, hlater.drop hstale⟩

/-- Where a path leads is told by its turns. -/
theorem Path.after_eq {turns : List (Float × τ)} {s' : σ} {p' : Multiset τ}
    (h : Path w s p turns s' p') : w.after s turns = s' := by
  induction h with
  | start => rfl
  | turn now _ ih => rw [Work.after_append, ih]
  | drop _ _ ih => exact ih

end Paths

/-! ## Rounds that are enough -/

/-- No double is below itself, be it a number or not. -/
theorem not_lt_self (x : Float) : ¬ x < x := by
  intro h
  have hlt : x.toModel.unpack.lt x.toModel.unpack = true := by
    change Float.lt x x = true at h
    unfold Float.lt at h
    exact of_decide_eq_true h
  -- comparing unpacked doubles goes by their kind
  unfold Float.Model.UnpackedFloat.lt at hlt
  generalize x.toModel.unpack = u at hlt
  cases u with
  | infinity s => cases s <;> simp [Float.Model.UnpackedFloat.compare] at hlt
  | notANumber => simp [Float.Model.UnpackedFloat.compare] at hlt
  | zero s => simp [Float.Model.UnpackedFloat.compare] at hlt
  | finite s m e hm => cases s <;> simp [Float.Model.UnpackedFloat.compare] at hlt

/-- A timer to whose moment the clock has jumped goes off. -/
theorem isDue_jump (now moment : Float) : isDue (jump now moment) moment = true := by
  unfold jump
  split
  · simp [isDue, not_lt_self]
  · rename_i hlt
    simp [isDue, hlt]

/-- When nothing is ready but timers are set, a timer is dropped or goes off. -/
theorem advance_progress (stale : τ → Bool) (a : Agenda τ) (hready : a.ready = [])
    (htimers : a.timers.bag ≠ 0) : a.dropped stale ≠ [] ∨ (a.advance stale).1 ≠ [] := by
  have hbag := Timers.bag_takeWhile (fun entry => stale entry.2) a.timers
  unfold dropped advance
  simp only [hready, ne_eq, List.map_eq_nil_iff]
  generalize (a.timers.takeWhile fun entry => stale entry.2).2 = live at hbag
  -- the clock jumps to the first timer that is left, if one is
  cases hfirst : live.first? with
  | none =>
    left
    intro hnil
    rw [hnil, Timers.bag_eq_zero_of_first? hfirst] at hbag
    exact htimers hbag
  | some entry =>
    right
    exact Timers.takeWhile_ne_nil hfirst (isDue_jump a.now entry.1)

/-- The price of an agenda: what its turns cost, and one for each timer. -/
def price (cost : τ → Nat) (a : Agenda τ) : Nat := (a.pending.map cost).sum + a.timers.bag.card

section Price

variable (cost : τ → Nat)

@[simp] theorem price_soon (a : Agenda τ) (work : τ) :
    (a.soon work).price cost = a.price cost + cost work := by
  unfold price
  rw [pending_soon, Multiset.map_cons, Multiset.sum_cons]
  simp only [soon]
  omega

@[simp] theorem price_wait (a : Agenda τ) (seconds : Float) (work : τ) :
    (a.wait seconds work).price cost = a.price cost + cost work + 1 := by
  unfold price
  rw [pending_wait, Multiset.map_cons, Multiset.sum_cons]
  simp only [wait, Timers.bag_push, Multiset.card_cons]
  omega

theorem price_rest_le (a : Agenda τ) (seconds : Float) (work : τ) :
    (a.rest seconds work).price cost ≤ a.price cost + cost work + 1 := by
  unfold rest
  split
  · rw [price_soon]
    omega
  · rw [price_wait]

theorem price_append (a : Agenda τ) (more : List τ) :
    { a with ready := a.ready ++ more }.price cost = a.price cost + (more.map cost).sum := by
  unfold price
  rw [pending_append, Multiset.map_add, Multiset.sum_add, Multiset.map_coe, Multiset.sum_coe]
  simp only
  omega

/-- What an agenda costs when a round begins: its turns, and one more for each timer that is dropped
or due. -/
theorem price_advance (stale : τ → Bool) (a : Agenda τ) :
    a.price cost = (a.ready.map cost).sum + { (a.advance stale).2 with ready := [] }.price cost +
      ((a.advance stale).1.map cost).sum + ((a.dropped stale).map cost).sum +
      (a.advance stale).1.length + (a.dropped stale).length := by
  have hcard := congrArg Multiset.card (bag_advance stale a)
  simp only [Multiset.card_map, Multiset.card_add, Multiset.coe_card] at hcard
  unfold price
  rw [pending_advance stale a]
  simp only [Multiset.map_add, Multiset.sum_add, Multiset.map_coe, Multiset.sum_coe]
  omega

/-- Turns are paid for: what a turn adds to the agenda, and to what the state holds, costs less than
the turn itself. -/
def Work.Paid (w : Work σ τ) (held : σ → Nat → Prop) : Prop :=
  ∀ turn x h, held x.1 h → ∃ h', held (w.act turn x).1 h' ∧
    h' + (w.act turn x).2.price cost + 1 ≤ h + x.2.price cost + cost turn

variable {cost} {w : Work σ τ} {held : σ → Nat → Prop}

theorem foldl_act_paid (hw : w.Paid cost held) (works : List τ) {x : σ × Agenda τ} {h : Nat}
    (hs : held x.1 h) :
    ∃ h', held (works.foldl (fun x work => w.act work x) x).1 h' ∧
      h' + (works.foldl (fun x work => w.act work x) x).2.price cost + works.length ≤
        h + x.2.price cost + (works.map cost).sum := by
  induction works generalizing x h with
  | nil => exact ⟨h, hs, by simp⟩
  | cons work rest ih =>
    obtain ⟨h₁, hheld, hle⟩ := hw work x h hs
    obtain ⟨h₂, hlast, hrest⟩ := ih hheld
    refine ⟨h₂, hlast, ?_⟩
    simp only [List.foldl_cons, List.length_cons, List.map_cons, List.sum_cons]
    omega

theorem round_paid (hw : w.Paid cost held) {x : σ × Agenda τ} {h : Nat} (hs : held x.1 h)
    (hbusy : x.2.isEmpty = false) :
    ∃ h', held (round w x).1 h' ∧ h' + (round w x).2.price cost + 1 ≤ h + x.2.price cost := by
  obtain ⟨h', hheld, hle⟩ := foldl_act_paid hw x.2.ready
    (x := (x.1, { (x.2.advance (w.isStale x.1)).2 with ready := [] })) hs
  have hprice := price_advance cost (w.isStale x.1) x.2
  -- a round has a turn, or a timer is dropped or goes off
  have hprogress : 1 ≤ x.2.ready.length + (x.2.advance (w.isStale x.1)).1.length +
      (x.2.dropped (w.isStale x.1)).length := by
    by_cases hready : x.2.ready = []
    · have htimers : x.2.timers.bag ≠ 0 := by
        intro hzero
        have hempty : x.2.timers.entries = #[] := by
          simpa [Timers.bag] using hzero
        simp [isEmpty, hready, hempty] at hbusy
      rcases advance_progress (w.isStale x.1) x.2 hready htimers with hne | hne
      · have hpos := List.length_pos_of_ne_nil hne
        omega
      · have hpos := List.length_pos_of_ne_nil hne
        omega
    · have hpos := List.length_pos_of_ne_nil hready
      omega
  refine ⟨h', hheld, ?_⟩
  unfold round
  simp only [ready_advance, price_append] at hle hprice ⊢
  omega

/-- As many rounds as the agenda costs, with what the state holds, are enough for all to be over or
for nothing to be left to do. -/
theorem run_ends (hw : w.Paid cost held) (n : Nat) {x : σ × Agenda τ} {h : Nat}
    (hs : held x.1 h) (hn : h + x.2.price cost ≤ n) :
    w.isOver (run w n x).1 = true ∨ (run w n x).2.isEmpty = true := by
  induction n generalizing x h with
  | zero =>
    right
    -- a round would cost more than there is
    by_contra hbusy
    obtain ⟨h', _, hle⟩ := round_paid hw hs (by simpa [run] using hbusy)
    omega
  | succ n ih =>
    unfold run
    split
    · rename_i hstop
      simpa using hstop
    · rename_i hgo
      simp only [Bool.or_eq_true, not_or, Bool.not_eq_true] at hgo
      obtain ⟨h', hheld, hle⟩ := round_paid hw hs hgo.2
      exact ih hheld (by omega)

end Price

theorem pending_eq_zero {a : Agenda τ} (h : a.isEmpty = true) : a.pending = 0 := by
  simp only [isEmpty, Bool.and_eq_true, List.isEmpty_iff, Array.isEmpty_iff] at h
  simp [pending, Timers.bag, h.1, h.2]

end Agenda

end EntitySearch
