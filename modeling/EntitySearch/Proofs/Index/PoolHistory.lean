import EntitySearch.Index.Pool
import EntitySearch.Proofs.Ledger
import Mathlib
/-!
# Histories of the shared pool

An operation that finds no pool asks for one, and the answer comes later: it may find that another
operation has been given a pool in the meantime. Then there are two (`Pool.Doubles`), and
`Pool.shares_iff` says that this is the only way in which operations can come to run on different
pools before a closing ends.

A pool that goes out of use without being closed stays open for good (`Pool.Lost.run`). The two
events that can do it are those of `Pool.Loses`, and in a history without them every pool is closed
in the end (`Pool.closed_iff`).
-/

namespace EntitySearch

namespace Pool

variable {kind : Pool → PoolEvent → Prop} {p q : Pool} {e : PoolEvent}
  {events rest : List PoolEvent} {op other n : Nat}

theorem run_append (p : Pool) (before after : List PoolEvent) :
    p.run (before ++ after) = (p.run before).run after :=
  List.foldl_append

/-- An event of some kind happens in a history. The kind may depend on the state it happens in. -/
def Happens (kind : Pool → PoolEvent → Prop) (p : Pool) (events : List PoolEvent) : Prop :=
  ∃ first e rest, events = first ++ e :: rest ∧ kind (p.run first) e

theorem not_happens_nil : ¬ Happens kind p [] := by
  rintro ⟨first, e, rest, heq, -⟩
  simp at heq

theorem happens_cons :
    Happens kind p (e :: rest) ↔ kind p e ∨ Happens kind (p.step e) rest := by
  constructor
  · rintro ⟨first, d, last, heq, hkind⟩
    rcases first with _ | ⟨c, first⟩
    · cases heq
      exact Or.inl hkind
    · cases heq
      exact Or.inr ⟨first, d, last, rfl, hkind⟩
  · rintro (hkind | ⟨first, d, last, rfl, hkind⟩)
    · exact ⟨[], e, rest, rfl, hkind⟩
    · exact ⟨e :: first, d, last, rfl, hkind⟩

theorem happens_append {before after : List PoolEvent} :
    Happens kind p (before ++ after) ↔
      Happens kind p before ∨ Happens kind (p.run before) after := by
  induction before generalizing p with
  | nil => simp [not_happens_nil, run]
  | cons e rest ih =>
    rw [List.cons_append, happens_cons, happens_cons, ih, or_assoc]
    rfl

/-! ## Pools since a moment without one -/

/-- What holds since a moment without a pool: the pools that were created since then are those with
later numbers, and an operation that got a pool since then got one of these. -/
structure Since (p q : Pool) : Prop where
  created : p.created ≤ q.created
  current : ∀ n, q.current = some n → p.created ≤ n ∧ n < q.created
  runs : ∀ op n, q.operations.get? op = some (.running n) →
    p.operations.get? op = some (.running n) ∨ p.created ≤ n ∧ n < q.created

namespace Since

/-- An operation goes on to a state in which it runs on no pool, or on one created since. -/
theorem put (h : p.Since q) {use : PoolUse}
    (huse : ∀ n, use = .running n → p.created ≤ n ∧ n < q.created) :
    p.Since { q with operations := q.operations.put op use } where
  created := h.created
  current := h.current
  runs := by
    intro o n ho
    rw [Ledger.get?_put] at ho
    split at ho
    · exact Or.inr (huse n (Option.some.inj ho))
    · exact h.runs o n ho

theorem step (h : p.Since q) (e : PoolEvent) : p.Since (q.step e) := by
  cases e with
  | arrive op =>
    rcases hc : q.current with _ | m
    · have hput : p.Since { q with operations := q.operations.put op .requesting } :=
        h.put (by simp)
      simpa only [Pool.step, hc] using hput
    · have hput : p.Since { q with operations := q.operations.put op (.running m) } :=
        h.put (by simp [h.current m hc])
      simpa only [Pool.step, hc] using hput
  | granted op =>
    simp only [Pool.step]
    split
    · have hgrown : p.Since { q with current := some q.created, created := q.created + 1 } := by
        refine ⟨Nat.le_succ_of_le h.created, ?_, ?_⟩
        · rintro n ⟨⟩
          exact ⟨h.created, Nat.lt_succ_self _⟩
        · intro o n ho
          rcases h.runs o n ho with hbefore | ⟨hlow, hhigh⟩
          · exact Or.inl hbefore
          · exact Or.inr ⟨hlow, Nat.lt_succ_of_lt hhigh⟩
      refine hgrown.put ?_
      rintro n ⟨⟩
      exact ⟨h.created, Nat.lt_succ_self _⟩
    · exact h
  | denied op =>
    simp only [Pool.step]
    split
    · exact h.put (by simp)
    · exact h
  | finish op =>
    simp only [Pool.step]
    split
    · exact h.put (by simp)
    · exact h
  | closeBegin =>
    simp only [Pool.step]
    split
    · exact ⟨h.created, h.current, h.runs⟩
    · exact h
  | closeEnd m =>
    simp only [Pool.step]
    split
    · exact ⟨h.created, by simp, h.runs⟩
    · exact h

theorem run (h : p.Since q) (events : List PoolEvent) : p.Since (q.run events) := by
  induction events generalizing q with
  | nil => exact h
  | cons e rest ih => exact ih (h.step e)

end Since

theorem since_run (hnone : p.current = none) (events : List PoolEvent) :
    p.Since (p.run events) := by
  refine Since.run ⟨Nat.le_refl _, ?_, fun _ _ hrun => Or.inl hrun⟩ events
  simp [hnone]

theorem created_le_step (p : Pool) (e : PoolEvent) : p.created ≤ (p.step e).created := by
  cases e with
  | granted op => simp only [step]; split <;> simp
  | _ => simp only [step]; split <;> exact Nat.le_refl _

theorem created_le_run (p : Pool) (events : List PoolEvent) :
    p.created ≤ (p.run events).created := by
  induction events generalizing p with
  | nil => exact Nat.le_refl _
  | cons e rest ih => exact Nat.le_trans (p.created_le_step e) (ih (p.step e))

/-! ## Two pools at a time -/

/-- A request is answered with a pool while there is one. -/
def Replaces (p : Pool) : PoolEvent → Prop
  | .granted op => p.operations.get? op = some .requesting ∧ p.current ≠ none
  | _ => False

/-- Two requests are unanswered at once, and both are answered with a pool. -/
def Doubles (p : Pool) (events : List PoolEvent) : Prop :=
  ∃ first op between other rest,
    events = first ++ .granted op :: (between ++ .granted other :: rest) ∧ op ≠ other ∧
    (p.run first).operations.get? op = some .requesting ∧
    (p.run first).operations.get? other = some .requesting ∧
    (p.run (first ++ .granted op :: between)).operations.get? other = some .requesting

/-- Operations share a pool that was not there at first: at most one is created, it is the one in
use, and every operation that gets a pool, at whatever moment, gets this one. -/
structure Shares (p : Pool) (events : List PoolEvent) : Prop where
  created : (p.run events).created ≤ p.created + 1
  current : ∀ n, (p.run events).current = some n → n = p.created
  runs : ∀ first rest, events = first ++ rest → ∀ op n,
    (p.run first).operations.get? op = some (.running n) →
    p.operations.get? op = some (.running n) ∨ n = p.created

theorem step_granted (hop : p.operations.get? op = some .requesting) :
    p.step (.granted op) = { p with
      current := some p.created
      created := p.created + 1
      operations := p.operations.put op (.running p.created) } := by
  simp [step, hop]

/-- Only the end of a closing takes a pool out of use when no other one comes. -/
theorem current_step (hsome : p.current ≠ none) (he : ∀ m, e ≠ .closeEnd m) :
    (p.step e).current ≠ none := by
  cases e with
  | closeEnd m => exact absurd rfl (he m)
  | granted op => simp only [step]; split <;> simp [hsome]
  | _ => simp only [step]; split <;> simp_all

theorem current_run (hsome : p.current ≠ none) (hopen : ∀ m, .closeEnd m ∉ events) :
    (p.run events).current ≠ none := by
  induction events generalizing p with
  | nil => exact hsome
  | cons e rest ih =>
    refine ih (current_step hsome ?_) fun m hm => hopen m (List.mem_cons_of_mem _ hm)
    rintro m rfl
    exact hopen m List.mem_cons_self

/-- A pool comes into use by the answer to a request. -/
theorem granted_of_current (hnone : p.current = none) (hsome : (p.step e).current ≠ none) :
    ∃ op, e = .granted op ∧ p.operations.get? op = some .requesting := by
  cases e with
  | granted op =>
    refine ⟨op, rfl, ?_⟩
    by_contra hop
    exact hsome (by simp [step, hop, hnone])
  | closeEnd m =>
    refine absurd ?_ hsome
    simp only [step]
    split <;> simp [hnone]
  | _ =>
    refine absurd ?_ hsome
    simp only [step]
    split <;> simp_all

theorem exists_granted (hnone : p.current = none) (hsome : (p.run events).current ≠ none) :
    ∃ first op rest, events = first ++ .granted op :: rest ∧
      (p.run first).operations.get? op = some .requesting := by
  induction events generalizing p with
  | nil => exact absurd hnone hsome
  | cons e rest ih =>
    by_cases hstep : (p.step e).current = none
    · obtain ⟨first, op, last, rfl, hop⟩ := ih hstep hsome
      exact ⟨e :: first, op, last, rfl, hop⟩
    · obtain ⟨op, rfl, hop⟩ := granted_of_current hnone hstep
      exact ⟨[], op, rest, rfl, hop⟩

theorem requesting_of_put {use : PoolUse} (huse : use ≠ .requesting)
    (h : (p.operations.put op use).get? other = some .requesting) :
    op ≠ other ∧ p.operations.get? other = some .requesting := by
  rw [Ledger.get?_put] at h
  split at h
  · exact absurd (Option.some.inj h) huse
  · next hne => exact ⟨hne, h⟩

/-- While there is a pool nobody asks for one, so who asks has done so before. -/
theorem requesting_step (hsome : p.current ≠ none)
    (h : (p.step e).operations.get? other = some .requesting) :
    p.operations.get? other = some .requesting := by
  cases e with
  | arrive op =>
    obtain ⟨m, hm⟩ := Option.ne_none_iff_exists'.mp hsome
    simp only [step, hm] at h
    exact (requesting_of_put (by simp) h).2
  | closeBegin => simp only [step] at h; split at h <;> exact h
  | closeEnd m => simp only [step] at h; split at h <;> exact h
  | _ =>
    simp only [step] at h
    split at h
    · exact (requesting_of_put (by simp) h).2
    · exact h

theorem requesting_run (hsome : p.current ≠ none) (hopen : ∀ m, .closeEnd m ∉ events)
    (h : (p.run events).operations.get? other = some .requesting) :
    p.operations.get? other = some .requesting := by
  induction events generalizing p with
  | nil => exact h
  | cons e rest ih =>
    have hstep : (p.step e).current ≠ none := by
      refine current_step hsome ?_
      rintro m rfl
      exact hopen m List.mem_cons_self
    exact requesting_step hsome (ih hstep (fun m hm => hopen m (List.mem_cons_of_mem _ hm)) h)

/-- A pool that replaces another one was asked for before that one came. -/
theorem doubles_of_replaces (hnone : p.current = none) (hopen : ∀ m, .closeEnd m ∉ events)
    (h : Happens Replaces p events) : p.Doubles events := by
  obtain ⟨before, e, after, rfl, hreplaces⟩ := h
  rcases e with _ | other | _ | _ | _ | _
  case granted =>
    obtain ⟨hother, hsome⟩ := hreplaces
    -- The pool that is replaced came by the answer to another request.
    obtain ⟨first, op, between, rfl, hop⟩ := exists_granted hnone hsome
    have hthen : (p.run first).step (.granted op) = (p.run (first ++ [.granted op])) := by
      rw [run_append]
      rfl
    have hgranted : ((p.run first).step (.granted op)).operations.get? other =
        some .requesting := by
      have hlater : ∀ m, .closeEnd m ∉ between := fun m hm => hopen m (by simp [hm])
      refine requesting_run ?_ hlater ?_
      · simp [step_granted hop]
      · simpa [hthen, ← run_append] using hother
    rw [step_granted hop] at hgranted
    obtain ⟨hne, hbefore⟩ := requesting_of_put (by simp) hgranted
    exact ⟨first, op, between, other, after, by simp, hne, hop, hbefore, hother⟩
  all_goals exact hreplaces.elim

/-- As long as no pool is replaced and no closing ends, the pools that are created are the one that
comes into use. -/
theorem created_run (hopen : ∀ m, .closeEnd m ∉ events) (h : ¬ Happens Replaces p events) :
    (p.run events).created + p.current.toList.length =
      p.created + (p.run events).current.toList.length := by
  induction events generalizing p with
  | nil => rfl
  | cons e rest ih =>
    rw [happens_cons, not_or] at h
    have hrest := ih (fun m hm => hopen m (List.mem_cons_of_mem _ hm)) h.2
    have hstep : (p.step e).created + p.current.toList.length =
        p.created + (p.step e).current.toList.length := by
      cases e with
      | closeEnd m => exact absurd List.mem_cons_self (hopen m)
      | granted op =>
        by_cases hop : p.operations.get? op = some .requesting
        · have hnone : p.current = none := by
            by_contra hsome
            exact h.1 ⟨hop, hsome⟩
          simp [step_granted hop, hnone]
        · simp [step, hop]
      | _ => simp only [step]; split <;> simp_all
    calc (p.run (e :: rest)).created + p.current.toList.length
        = ((p.step e).run rest).created + p.current.toList.length := rfl
      _ = p.created + ((p.step e).run rest).current.toList.length := by omega

/-- The answer to a request brings one more pool. -/
theorem created_lt_run (hop : (p.run events).operations.get? op = some .requesting) :
    (p.run events).created < (p.run (events ++ .granted op :: rest)).created := by
  have hone : ((p.run events).step (.granted op)).created = (p.run events).created + 1 := by
    rw [step_granted hop]
  have hgrown := ((p.run events).step (.granted op)).created_le_run rest
  rw [hone] at hgrown
  rw [run_append]
  exact hgrown

/-- Two requests that are answered with pools are answered with two. -/
theorem Doubles.created (h : p.Doubles events) : p.created + 2 ≤ (p.run events).created := by
  obtain ⟨first, op, between, other, after, rfl, -, hop, -, hother⟩ := h
  have hfirst := p.created_le_run first
  have hone : (p.run first).created < (p.run (first ++ .granted op :: between)).created :=
    created_lt_run hop
  have htwo : (p.run (first ++ .granted op :: between)).created <
      (p.run (first ++ .granted op :: between ++ .granted other :: after)).created :=
    created_lt_run hother
  rw [List.append_assoc, List.cons_append] at htwo
  omega

/-- Until a closing ends, operations share a pool exactly if no two requests that are unanswered at
once are both answered with one. -/
theorem shares_iff (hnone : p.current = none) (hopen : ∀ m, .closeEnd m ∉ events) :
    p.Shares events ↔ ¬ p.Doubles events := by
  constructor
  · intro hshares hdoubles
    have hone := hshares.created
    have htwo := hdoubles.created
    omega
  · intro hsingle
    have hcreated := created_run hopen fun h => hsingle (doubles_of_replaces hnone hopen h)
    have hone : (p.run events).created ≤ p.created + 1 := by
      have hcurrent : (p.run events).current.toList.length ≤ 1 := by
        cases (p.run events).current <;> simp
      simp only [hnone, Option.toList_none, List.length_nil] at hcreated
      omega
    refine ⟨hone, ?_, ?_⟩
    · intro n hn
      have hnew := (since_run hnone events).current n hn
      omega
    · rintro first rest rfl op n hrun
      rcases (since_run hnone first).runs op n hrun with hbefore | hnew
      · exact Or.inl hbefore
      · have hgrown := (p.run first).created_le_run rest
        rw [← run_append] at hgrown
        exact Or.inr (by omega)

/-! ## Pools that are never closed -/

/-- A pool that was created, is not in use, is not being closed and was not closed. -/
structure Lost (p : Pool) (n : Nat) : Prop where
  created : n < p.created
  unused : p.current ≠ some n
  notClosing : n ∉ p.closing
  notClosed : n ∉ p.closed

/-- A pool goes out of use that no closing waits for: a request is answered with another one, or a
closing ends that has waited for another one. -/
def Loses (p : Pool) : PoolEvent → Prop
  | .granted op => p.operations.get? op = some .requesting ∧
      ∃ n, p.current = some n ∧ n ∉ p.closing
  | .closeEnd m => m ∈ p.closing ∧ ∃ n, p.current = some n ∧ n ≠ m ∧ n ∉ p.closing
  | _ => False

/-- Only pools that were created are used and closed, and none that was closed is used. -/
structure Sound (p : Pool) : Prop where
  current : ∀ n, p.current = some n → n < p.created ∧ n ∉ p.closed
  closing : ∀ n ∈ p.closing, n < p.created
  closed : ∀ n ∈ p.closed, n < p.created

theorem sound_start : Sound {} := by
  refine ⟨?_, ?_, ?_⟩ <;> simp

namespace Sound

theorem step (h : p.Sound) (e : PoolEvent) : (p.step e).Sound := by
  cases e with
  | arrive op =>
    simp only [Pool.step]
    split
    · exact ⟨h.current, h.closing, h.closed⟩
    · exact ⟨h.current, h.closing, h.closed⟩
  | granted op =>
    simp only [Pool.step]
    split
    · refine ⟨?_, fun n hn => Nat.lt_succ_of_lt (h.closing n hn),
        fun n hn => Nat.lt_succ_of_lt (h.closed n hn)⟩
      rintro n ⟨⟩
      exact ⟨Nat.lt_succ_self _, fun hin => Nat.lt_irrefl _ (h.closed _ hin)⟩
    · exact h
  | closeBegin =>
    rcases hc : p.current with _ | m
    · simpa only [Pool.step, hc] using h
    · simp only [Pool.step, hc]
      refine ⟨by simpa only [hc] using h.current, ?_, h.closed⟩
      intro n hn
      rcases List.mem_append.mp hn with hold | hnew
      · exact h.closing n hold
      · rw [List.mem_singleton.mp hnew]
        exact (h.current m hc).1
  | closeEnd m =>
    simp only [Pool.step]
    split
    · next hm =>
      refine ⟨by simp, fun n hn => h.closing n (List.mem_of_mem_erase hn), ?_⟩
      intro n hn
      dsimp only at hn
      split at hn
      · exact h.closed n hn
      · rcases List.mem_append.mp hn with hold | hnew
        · exact h.closed n hold
        · rw [List.mem_singleton.mp hnew]
          exact h.closing m hm
    · exact h
  | _ =>
    simp only [Pool.step]
    split
    · exact ⟨h.current, h.closing, h.closed⟩
    · exact h

theorem run (h : p.Sound) (events : List PoolEvent) : (p.run events).Sound := by
  induction events generalizing p with
  | nil => exact h
  | cons e rest ih => exact ih (h.step e)

end Sound

theorem Lost.step (h : p.Lost n) (e : PoolEvent) : (p.step e).Lost n := by
  obtain ⟨hcreated, hunused, hclosing, hopen⟩ := h
  cases e with
  | granted op =>
    simp only [Pool.step]
    split
    · exact ⟨Nat.lt_succ_of_lt hcreated, by simpa using Nat.ne_of_gt hcreated, hclosing, hopen⟩
    · exact ⟨hcreated, hunused, hclosing, hopen⟩
  | closeBegin =>
    rcases hc : p.current with _ | m
    · simpa [Pool.step, hc] using Lost.mk hcreated hunused hclosing hopen
    · have hm : n ≠ m := by
        rintro rfl
        exact hunused hc
      simp only [Pool.step, hc]
      exact ⟨hcreated, by simpa [hc] using hm.symm, by simp [hclosing, hm], hopen⟩
  | closeEnd m =>
    simp only [Pool.step]
    split
    · next hmem =>
      have hm : n ≠ m := by
        rintro rfl
        exact hclosing hmem
      refine ⟨hcreated, by simp, fun hin => hclosing (List.mem_of_mem_erase hin), ?_⟩
      dsimp only
      split
      · exact hopen
      · simp [hopen, hm]
    · exact ⟨hcreated, hunused, hclosing, hopen⟩
  | _ =>
    simp only [Pool.step]
    split <;> exact ⟨hcreated, hunused, hclosing, hopen⟩

/-- A lost pool stays lost, whatever happens then. -/
theorem Lost.run (h : p.Lost n) (events : List PoolEvent) : (p.run events).Lost n := by
  induction events generalizing p with
  | nil => exact h
  | cons e rest ih => exact ih (h.step e)

/-- An event that puts a pool out of use loses it. -/
theorem Loses.exists_lost (h : p.Sound) (hloses : p.Loses e) : ∃ n, (p.step e).Lost n := by
  rcases e with _ | op | _ | _ | _ | m
  case granted =>
    obtain ⟨hop, n, hn, hclosing⟩ := hloses
    obtain ⟨hcreated, hclosed⟩ := h.current n hn
    rw [step_granted hop]
    exact ⟨n, Nat.lt_succ_of_lt hcreated, by simpa using Nat.ne_of_gt hcreated, hclosing, hclosed⟩
  case closeEnd =>
    obtain ⟨hm, n, hn, hne, hclosing⟩ := hloses
    obtain ⟨hcreated, hclosed⟩ := h.current n hn
    refine ⟨n, ?_⟩
    simp only [step, hm, if_true]
    refine ⟨hcreated, by simp, fun hin => hclosing (List.mem_of_mem_erase hin), ?_⟩
    dsimp only
    split
    · exact hclosed
    · simp [hclosed, hne]
  all_goals exact hloses.elim

/-- A pool that an event loses was in use, or it was lost before. -/
theorem Lost.of_step (hlost : (p.step e).Lost n) : p.Lost n ∨ p.Loses e := by
  -- What else holds of the pool tells which of the two it is: it was in use or not.
  have hsplit : n < p.created → n ∉ p.closing → n ∉ p.closed →
      (p.current = some n → p.Loses e) → p.Lost n ∨ p.Loses e := by
    intro hcreated hclosing hclosed hloses
    by_cases hn : p.current = some n
    · exact Or.inr (hloses hn)
    · exact Or.inl ⟨hcreated, hn, hclosing, hclosed⟩
  obtain ⟨hcreated, hunused, hclosing, hclosed⟩ := hlost
  cases e with
  | granted op =>
    by_cases hop : p.operations.get? op = some .requesting
    · rw [step_granted hop] at hcreated hunused hclosing hclosed
      have hold : n < p.created := by
        have hne : p.created ≠ n := by simpa using hunused
        dsimp only at hcreated
        omega
      exact hsplit hold hclosing hclosed fun hn => ⟨hop, n, hn, hclosing⟩
    · simp only [Pool.step, hop, if_false] at hcreated hunused hclosing hclosed
      exact Or.inl ⟨hcreated, hunused, hclosing, hclosed⟩
  | closeBegin =>
    rcases hc : p.current with _ | m
    · simp only [Pool.step, hc] at hcreated hunused hclosing hclosed
      exact Or.inl ⟨hcreated, by simp [hc], hclosing, hclosed⟩
    · simp only [Pool.step, hc] at hcreated hunused hclosing hclosed
      refine Or.inl ⟨hcreated, hc ▸ hunused, ?_, hclosed⟩
      exact fun hin => hclosing (List.mem_append_left _ hin)
  | closeEnd m =>
    by_cases hm : m ∈ p.closing
    · simp only [Pool.step, hm, if_true] at hcreated hunused hclosing hclosed
      have hne : n ≠ m := by
        rintro rfl
        refine hclosed ?_
        split
        · assumption
        · simp
      have hold : n ∉ p.closed := by
        intro hin
        refine hclosed ?_
        split
        · exact hin
        · exact List.mem_append_left _ hin
      have hwaits : n ∉ p.closing := fun hin => hclosing ((List.mem_erase_of_ne hne).mpr hin)
      exact hsplit hcreated hwaits hold fun hn => ⟨hm, n, hn, hne, hwaits⟩
    · simp only [Pool.step, hm, if_false] at hcreated hunused hclosing hclosed
      exact Or.inl ⟨hcreated, hunused, hclosing, hclosed⟩
  | _ =>
    simp only [Pool.step] at hcreated hunused hclosing hclosed
    split at hcreated <;> simp_all [Lost.mk]

/-- Pools are lost exactly by the events that put them out of use. -/
theorem lost_run_iff (h : p.Sound) :
    (∃ n, (p.run events).Lost n) ↔ (∃ n, p.Lost n) ∨ Happens Loses p events := by
  induction events generalizing p with
  | nil => simp [run, not_happens_nil]
  | cons e rest ih =>
    have hstep : (∃ n, (p.step e).Lost n) ↔ (∃ n, p.Lost n) ∨ p.Loses e := by
      constructor
      · rintro ⟨n, hlost⟩
        rcases hlost.of_step with hbefore | hloses
        · exact Or.inl ⟨n, hbefore⟩
        · exact Or.inr hloses
      · rintro (⟨n, hlost⟩ | hloses)
        · exact ⟨n, hlost.step e⟩
        · exact hloses.exists_lost h
    rw [happens_cons, ← or_assoc, ← hstep]
    exact ih (h.step e)

/-- When no pool is in use and none is being closed, all pools that were created are closed exactly
if no event has put one out of use before. -/
theorem closed_iff (hnone : (run {} events).current = none)
    (hclosing : (run {} events).closing = []) :
    (∀ n < (run {} events).created, n ∈ (run {} events).closed) ↔ ¬ Happens Loses {} events := by
  have hstart : ¬ ∃ n, Lost {} n := by
    rintro ⟨n, hlost⟩
    exact Nat.not_lt_zero n hlost.created
  have hlost : (∃ n, (run {} events).Lost n) ↔ Happens Loses {} events := by
    rw [lost_run_iff sound_start, or_iff_right hstart]
  rw [← hlost, not_exists]
  refine forall_congr' fun n => ?_
  constructor
  · intro hclosed hlost
    exact hlost.notClosed (hclosed hlost.created)
  · intro hkept hcreated
    by_contra hopen
    exact hkept ⟨hcreated, by simp [hnone], by simp [hclosing], hopen⟩

theorem closing_run (hclosing : p.closing = []) (hbegin : .closeBegin ∉ events) :
    (p.run events).closing = [] := by
  induction events generalizing p with
  | nil => exact hclosing
  | cons e rest ih =>
    refine ih ?_ fun hin => hbegin (List.mem_cons_of_mem _ hin)
    cases e with
    | closeBegin => exact absurd List.mem_cons_self hbegin
    | _ => simp only [step]; split <;> simp_all

/-- Without any closing, two requests that are answered with pools lose one. -/
theorem Doubles.exists_lost (h : p.Doubles events) (hsound : p.Sound) (hclosing : p.closing = [])
    (hbegin : .closeBegin ∉ events) (hopen : ∀ m, .closeEnd m ∉ events) :
    ∃ n, (p.run events).Lost n := by
  refine (lost_run_iff hsound).mpr (Or.inr ?_)
  obtain ⟨first, op, between, other, after, rfl, -, hop, -, hother⟩ := h
  have hsome : (p.run (first ++ .granted op :: between)).current ≠ none := by
    have hgranted : ((p.run first).step (.granted op)).current ≠ none := by
      simp [step_granted hop]
    have hlater : ∀ m, .closeEnd m ∉ between := fun m hm => hopen m (by simp [hm])
    simpa [run] using current_run hgranted hlater
  obtain ⟨n, hn⟩ := Option.ne_none_iff_exists'.mp hsome
  have hnone : (p.run (first ++ .granted op :: between)).closing = [] :=
    closing_run hclosing fun hin => hbegin (by
      rcases List.mem_append.mp hin with hfirst | hlater
      · simp [hfirst]
      · simp_all)
  exact ⟨first ++ .granted op :: between, .granted other, after, by simp, hother, n, hn,
    by simp [hnone]⟩

end Pool

end EntitySearch
