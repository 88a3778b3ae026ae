import EntitySearch.Index.Relational
import EntitySearch.Proofs.Index.PoolHistory
import Mathlib
/-!
# One pool for all operations

What an operation on a relational index does to the shared pool is a turn of events: it arrives, is
granted a pool or denied one if it found none, and ends (`RelationalIndex.execute_pool`). An
operation that has a statement to send sends it over the pool in use, which it creates if there is
none, and one that has nothing to ask needs no pool (`Operation.serve_eq`).

When turns are taken one after another, all pools are closed in the end
(`RelationalIndex.all_closed_close`). When they interleave, two operations may both find no pool and
be given one each: `RelationalIndex.pool_shared_iff` says exactly when pools are shared and when
they are all closed.
-/

namespace EntitySearch

/-! ## The turn of an operation -/

namespace RelationalIndex

variable {x : RelationalIndex} {n : Nat} {cause : Text}

/-- Why the next pool cannot be created, if it cannot. -/
def refusal? (x : RelationalIndex) : Option Text := x.creations.headD none

/-- What happens to the pool while the next operation that sends a statement is served. -/
def turns (x : RelationalIndex) : List PoolEvent :=
  match x.pool.current, x.refusal? with
  | some _, _ => [.arrive x.served, .finish x.served]
  | none, some _ => [.arrive x.served, .denied x.served]
  | none, none => [.arrive x.served, .granted x.served, .finish x.served]

/-- The pool that the next operation runs on: the one in use, or else a new one. -/
def next (x : RelationalIndex) : Nat := x.pool.current.getD x.pool.created

/-- The request for a pool that comes first when there is none. -/
def creation (x : RelationalIndex) : List DatabaseCall :=
  if x.pool.current = none then [.createPool x.settings] else []

theorem acquire_current (hn : x.pool.current = some n) :
    x.acquire = ⟨.ok (),
      { x with pool := x.pool.step (.arrive x.served), served := x.served + 1 }, []⟩ := by
  simp [acquire, Pool.step, hn, Ledger.get?_put]

theorem acquire_refused (hnone : x.pool.current = none) (hcause : x.refusal? = some cause) :
    x.acquire = ⟨.error (.connection cause),
      { x with
        pool := x.pool.run [.arrive x.served, .denied x.served], served := x.served + 1
        creations := x.creations.tail },
      [.createPool x.settings]⟩ := by
  unfold refusal? at hcause
  simp [acquire, Pool.run, Pool.step, hnone, hcause, Ledger.get?_put,
    -List.headD_eq_head?_getD]

theorem acquire_granted (hnone : x.pool.current = none) (hcause : x.refusal? = none) :
    x.acquire = ⟨.ok (),
      { x with
        pool := x.pool.run [.arrive x.served, .granted x.served], served := x.served + 1
        creations := x.creations.tail },
      [.createPool x.settings]⟩ := by
  unfold refusal? at hcause
  simp [acquire, Pool.run, Pool.step, hnone, hcause, Ledger.get?_put,
    -List.headD_eq_head?_getD]

/-- A statement takes one turn. -/
theorem execute_pool (x : RelationalIndex) (mode : FetchMode) (text : Text)
    (arguments : List Json) :
    (x.execute mode text arguments).index.pool = x.pool.run x.turns := by
  cases hc : x.pool.current with
  | some m =>
    simp only [execute, acquire_current hc, turns, hc]
    split <;> rfl
  | none =>
    cases hr : x.refusal? with
    | some cause => simp [execute, acquire_refused hc hr, turns, hc, hr]
    | none =>
      simp only [execute, acquire_granted hc hr, turns, hc, hr]
      split <;> rfl

/-- An operation that is given a pool runs on the one in use, which is new only if there was none,
and sends its statement. -/
theorem execute_runs (h : x.pool.current = none → x.refusal? = none) (mode : FetchMode)
    (text : Text) (arguments : List Json) :
    x.acquire.index.pool.current = some x.next ∧
      x.acquire.index.pool.operations.get? x.served = some (.running x.next) ∧
      (x.execute mode text arguments).calls =
        x.creation ++ [.statement mode text arguments] := by
  cases hc : x.pool.current with
  | some m =>
    refine ⟨?_, ?_, ?_⟩
    · simp [acquire_current hc, Pool.step, hc, next]
    · simp [acquire_current hc, Pool.step, hc, next, Ledger.get?_put]
    · simp only [execute, acquire_current hc, creation, hc]
      split <;> rfl
  | none =>
    have hr := h hc
    refine ⟨?_, ?_, ?_⟩
    · simp [acquire_granted hc hr, Pool.run, Pool.step, hc, next, Ledger.get?_put]
    · simp [acquire_granted hc hr, Pool.run, Pool.step, hc, next, Ledger.get?_put]
    · simp only [execute, acquire_granted hc hr, creation, hc]
      split <;> rfl

/-- An operation whose request is answered with an error sends nothing more. -/
theorem execute_refused (hnone : x.pool.current = none) (hcause : x.refusal? = some cause)
    (mode : FetchMode) (text : Text) (arguments : List Json) :
    (x.execute mode text arguments).calls = x.creation := by
  simp [execute, acquire_refused hnone hcause, creation, hnone]

end RelationalIndex

/-! ## The operations -/

/-- An operation on an index. -/
inductive Operation where
  | search (d : Descriptor) (compiled : Text) (f : Filters) (limit : Int)
  | filterMatching (d : Descriptor) (ids : List Text) (f : Filters)
  | signals (id : Text)
  | tagUsage (tag : Text)
  | entity (id : Text)
  | health

/-- A statement with its arguments. -/
structure Statement where
  mode : FetchMode
  text : Text
  arguments : List Json

namespace Operation

/-- The statement that an operation sends, unless it has nothing to ask. -/
def statement? : Operation → Option Statement
  | .search d compiled f limit =>
    let query := Sql.tsquery compiled
    if query.isEmpty || decide (limit ≤ 0) then none
    else
      let statement := Sql.searchStatement d f
      some ⟨.all, statement.text,
        .text query :: .int limit :: statement.parameters.map Sql.Parameter.toJson⟩
  | .filterMatching d ids f =>
    if ids.isEmpty then none
    else
      let statement := Sql.matchStatement d f
      some ⟨.all, statement.text,
        .arr (ids.map Json.text) :: statement.parameters.map Sql.Parameter.toJson⟩
  | .signals id =>
    some ⟨.one, "SELECT likes, loops FROM engagement_stats WHERE entity_id = $1", [.text id]⟩
  | .tagUsage tag => some ⟨.one,
    "SELECT hashtag, total_usage, first_seen, last_seen FROM hashtag_stats WHERE hashtag = $1",
    [.text (Text.lower tag)]⟩
  | .entity id => some ⟨.one,
    "SELECT id, pubkey, created_at, kind, tags, content, sig FROM events WHERE id = $1",
    [.text id]⟩
  | .health => some ⟨.one, "SELECT 1", []⟩

/-- The index after an operation, and the calls that it made. -/
def serve (x : RelationalIndex) : Operation → RelationalIndex × List DatabaseCall
  | .search d compiled f limit => traced (x.search d compiled f limit)
  | .filterMatching d ids f => traced (x.filterMatching d ids f)
  | .signals id => traced (x.signals id)
  | .tagUsage tag => traced (x.tagUsage tag)
  | .entity id => traced (x.entity id)
  | .health => traced x.health
where
  /-- What an operation leaves behind, whatever it returns. -/
  traced {β : Type} (s : Served β) : RelationalIndex × List DatabaseCall := (s.index, s.calls)

/-- An operation sends its statement, and does nothing if it has none. -/
theorem serve_eq (x : RelationalIndex) (o : Operation) :
    o.serve x = match o.statement? with
      | none => (x, [])
      | some s =>
        ((x.execute s.mode s.text s.arguments).index,
          (x.execute s.mode s.text s.arguments).calls) := by
  cases o with
  | search d compiled f limit =>
    simp only [serve, RelationalIndex.search, statement?]
    split <;> rfl
  | filterMatching d ids f =>
    simp only [serve, RelationalIndex.filterMatching, statement?]
    split <;> rfl
  | _ => rfl

end Operation

/-! ## One after another -/

/-- What is asked of an index: an operation, or that it be closed. -/
inductive IndexUse where
  | operation (o : Operation)
  | close

namespace IndexUse

/-- The index after it was used. -/
def serve (x : RelationalIndex) : IndexUse → RelationalIndex
  | .operation o => (o.serve x).1
  | .close => x.close.index

/-- What happens to the pool meanwhile. -/
def events (x : RelationalIndex) : IndexUse → List PoolEvent
  | .operation o => if o.statement?.isSome then x.turns else []
  | .close => match x.pool.current with
    | some n => [.closeBegin, .closeEnd n]
    | none => []

theorem serve_pool (x : RelationalIndex) (u : IndexUse) :
    (u.serve x).pool = x.pool.run (u.events x) := by
  cases u with
  | operation o =>
    simp only [serve, events, Operation.serve_eq]
    cases o.statement? with
    | none => rfl
    | some s => simpa using x.execute_pool s.mode s.text s.arguments
  | close =>
    cases hc : x.pool.current <;>
      simp [serve, events, RelationalIndex.close, RelationalIndex.withoutStatement, hc, Pool.run]

end IndexUse

namespace RelationalIndex

variable {x : RelationalIndex}

/-- A turn that is taken by itself brings a pool only if there is none. -/
theorem not_loses_turns (x : RelationalIndex) : ¬ x.pool.Happens Pool.Loses x.turns := by
  rcases hc : x.pool.current with _ | m
  · rcases hr : x.refusal? with _ | cause
    · simp [turns, hc, hr, Pool.happens_cons, Pool.not_happens_nil, Pool.Loses, Pool.step]
    · simp [turns, hc, hr, Pool.happens_cons, Pool.not_happens_nil, Pool.Loses]
  · simp [turns, hc, Pool.happens_cons, Pool.not_happens_nil, Pool.Loses]

/-- What an index is asked for puts no pool out of use that is not closed, if it is the only thing
that the index is asked for at the time. -/
theorem not_loses_events (hidle : x.pool.closing = []) (u : IndexUse) :
    ¬ x.pool.Happens Pool.Loses (u.events x) := by
  cases u with
  | operation o =>
    simp only [IndexUse.events]
    split
    · exact x.not_loses_turns
    · exact Pool.not_happens_nil
  | close =>
    rcases hc : x.pool.current with _ | m
    · simpa only [IndexUse.events, hc] using Pool.not_happens_nil
    · -- The pool that the closing waits for is the one in use until the closing ends.
      simp [IndexUse.events, hc, Pool.happens_cons, Pool.not_happens_nil, Pool.Loses, Pool.step,
        hidle]

theorem closeBegin_not_mem_turns (x : RelationalIndex) : .closeBegin ∉ x.turns := by
  rcases hc : x.pool.current with _ | m
  · rcases hr : x.refusal? with _ | cause <;> simp [turns, hc, hr]
  · simp [turns, hc]

theorem idle_serve (hidle : x.pool.closing = []) (u : IndexUse) :
    (u.serve x).pool.closing = [] := by
  rw [u.serve_pool]
  cases u with
  | operation o =>
    refine Pool.closing_run hidle ?_
    simp only [IndexUse.events]
    split
    · exact x.closeBegin_not_mem_turns
    · simp
  | close =>
    rcases hc : x.pool.current with _ | m
    · simpa [IndexUse.events, hc, Pool.run] using hidle
    · simp [IndexUse.events, hc, Pool.run, Pool.step, hidle]

/-! ## Histories of an index -/

/-- The index after it was used, by one after the other. -/
def serveAll (x : RelationalIndex) (uses : List IndexUse) : RelationalIndex :=
  uses.foldl (fun y u => u.serve y) x

/-- What happens to the pool when an index is used by one after the other. -/
def history : RelationalIndex → List IndexUse → List PoolEvent
  | _, [] => []
  | x, u :: rest => u.events x ++ (u.serve x).history rest

theorem serveAll_pool (x : RelationalIndex) (uses : List IndexUse) :
    (x.serveAll uses).pool = x.pool.run (x.history uses) := by
  induction uses generalizing x with
  | nil => rfl
  | cons u rest ih =>
    calc (x.serveAll (u :: rest)).pool
        = (u.serve x).pool.run ((u.serve x).history rest) := ih (u.serve x)
      _ = (x.pool.run (u.events x)).run ((u.serve x).history rest) := by rw [u.serve_pool]
      _ = x.pool.run (x.history (u :: rest)) := (Pool.run_append ..).symm

theorem not_loses_history (hidle : x.pool.closing = []) (uses : List IndexUse) :
    ¬ x.pool.Happens Pool.Loses (x.history uses) := by
  induction uses generalizing x with
  | nil => exact Pool.not_happens_nil
  | cons u rest ih =>
    rw [history, Pool.happens_append, ← u.serve_pool, not_or]
    exact ⟨not_loses_events hidle u, ih (idle_serve hidle u)⟩

theorem idle_serveAll (hidle : x.pool.closing = []) (uses : List IndexUse) :
    (x.serveAll uses).pool.closing = [] := by
  induction uses generalizing x with
  | nil => exact hidle
  | cons u rest ih => exact ih (idle_serve hidle u)

/-- When a fresh index that was used by one after the other is closed, all its pools are closed. -/
theorem all_closed_close (hfresh : x.pool = {}) (uses : List IndexUse) :
    ∀ n < (x.serveAll uses).close.index.pool.created,
      n ∈ (x.serveAll uses).close.index.pool.closed := by
  have hstart : x.pool.closing = [] := by rw [hfresh]
  have hclose : (x.serveAll uses).close.index = x.serveAll (uses ++ [.close]) := by
    simp [serveAll, IndexUse.serve]
  have hnone : (x.serveAll uses).close.index.pool.current = none := by
    rcases hc : (x.serveAll uses).pool.current with _ | m
    · simp [close, withoutStatement, hc]
    · simp [close, Pool.step, hc]
  have hidle : (x.serveAll (uses ++ [.close])).pool.closing = [] := idle_serveAll hstart _
  have hkept := not_loses_history hstart (uses ++ [.close])
  rw [hclose] at hnone ⊢
  rw [serveAll_pool, hfresh] at hnone hidle ⊢
  rw [hfresh] at hkept
  exact (Pool.closed_iff hnone hidle).mpr hkept

/-! ## Interleaved turns -/

/-- An operation that has nothing to ask leaves the index as it is. Any other one takes a turn, and
unless its request for a pool is answered with an error, when it sends nothing more, it sends its
statement while it runs on the pool in use.

Turns and closings may interleave in any way. From a moment without a pool until a closing ends,
operations share one pool exactly if no two requests that are unanswered at once are both answered
with one. When there is no pool and none is being closed, every pool that was created is closed
exactly if no event has put a pool out of use that no closing waited for; such a pool is never
closed. Two requests that are both answered with a pool are enough to lose one so. -/
theorem pool_shared_iff (x : RelationalIndex) (before after : List PoolEvent) :
    let p := Pool.run {} before
    let q := p.run after
    (∀ o : Operation,
      (o.statement? = none → o.serve x = (x, [])) ∧
      ∀ s, o.statement? = some s →
        (o.serve x).1.pool = x.pool.run x.turns ∧
        ((x.pool.current = none → x.refusal? = none) →
          x.acquire.index.pool.current = some x.next ∧
          x.acquire.index.pool.operations.get? x.served = some (.running x.next) ∧
          (o.serve x).2 = x.creation ++ [.statement s.mode s.text s.arguments]) ∧
        ∀ cause, x.pool.current = none → x.refusal? = some cause →
          (o.serve x).2 = x.creation) ∧
    (p.current = none → (∀ n, .closeEnd n ∉ after) → (p.Shares after ↔ ¬ p.Doubles after)) ∧
    (q.current = none → q.closing = [] →
      ((∀ n < q.created, n ∈ q.closed) ↔ ¬ Pool.Happens Pool.Loses {} (before ++ after))) ∧
    (∀ n, p.Lost n → n ∉ q.closed) ∧
    (p.closing = [] → .closeBegin ∉ after → (∀ n, .closeEnd n ∉ after) → p.Doubles after →
      ∃ n, q.Lost n) := by
  intro p q
  have hq : q = Pool.run {} (before ++ after) := (Pool.run_append {} before after).symm
  refine ⟨?turn, Pool.shares_iff, ?closed, ?lost, ?doubled⟩
  case turn =>
    intro o
    refine ⟨?_, ?_⟩
    · intro hnone
      rw [o.serve_eq, hnone]
    · intro s hs
      rw [o.serve_eq, hs]
      exact ⟨x.execute_pool s.mode s.text s.arguments,
        fun hcreated => execute_runs hcreated s.mode s.text s.arguments,
        fun cause hnone hcause => execute_refused hnone hcause s.mode s.text s.arguments⟩
  case closed =>
    intro hnone hclosing
    rw [hq] at hnone hclosing ⊢
    exact Pool.closed_iff hnone hclosing
  case lost =>
    intro n hlost
    exact (hlost.run after).notClosed
  case doubled =>
    intro hclosing hbegin hopen hdoubles
    exact hdoubles.exists_lost (Pool.sound_start.run before) hclosing hbegin hopen

/-- Two operations that find no pool are given one each. The second pool is closed after both have
ended, and the first one never is. -/
theorem pool_shared_iff_twoPools :
    let x : RelationalIndex := { settings := { dsn := .null } }
    let requests : List PoolEvent := [.arrive 0, .arrive 1, .granted 0, .granted 1]
    let ends : List PoolEvent := [.finish 0, .finish 1, .closeBegin, .closeEnd 1]
    let q := Pool.run {} (requests ++ ends)
    x.acquire.index.pool.current = some x.next ∧
      ¬ Pool.Shares {} requests ∧ q.created = 2 ∧ q.closed = [1] ∧
      Pool.Happens Pool.Loses {} (requests ++ ends) ∧
      ∀ events, 0 ∉ (q.run events).closed := by
  intro x requests ends q
  obtain ⟨hturn, hshared, -, -, -⟩ := pool_shared_iff x [] requests
  have hacquire : x.acquire.index.pool.current = some x.next :=
    (((hturn .health).2 _ rfl).2.1 fun _ => rfl).1
  have hdoubles : Pool.Doubles {} requests :=
    ⟨[.arrive 0, .arrive 1], 0, [], 1, [], rfl, by decide, by decide, by decide, by decide⟩
  have hshares : ¬ Pool.Shares {} requests := by
    intro hshares
    exact (hshared rfl (by simp [requests])).mp hshares hdoubles
  have hloses : Pool.Happens Pool.Loses {} (requests ++ ends) := by
    by_contra hkept
    obtain ⟨-, -, hclosed, -, -⟩ := pool_shared_iff x requests ends
    exact absurd ((hclosed (by decide) (by decide)).mpr hkept 0 (by decide)) (by decide)
  have hlost : q.Lost 0 := ⟨by decide, by decide, by decide, by decide⟩
  refine ⟨hacquire, hshares, by decide, by decide, hloses, ?_⟩
  intro events
  obtain ⟨-, -, -, hopen, -⟩ := pool_shared_iff x (requests ++ ends) events
  exact hopen 0 hlost

end RelationalIndex

end EntitySearch
