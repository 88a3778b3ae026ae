import EntitySearch.Ledger
/-!
# The shared connection pool

Operations share one connection pool, which is created when an operation finds none. Creation is a
request that is answered later, and other operations may arrive in the meantime. `Pool.step` says
what each event does to the state of the pool, in whatever order events come.
-/

namespace EntitySearch

/-- Where an operation stands. -/
inductive PoolUse where
  /-- It has asked for a pool to be created. -/
  | requesting
  /-- It runs on a pool. -/
  | running (pool : Nat)
  /-- The pool it asked for could not be created. -/
  | refused
  /-- It has ended. -/
  | finished
  deriving Repr, DecidableEq

/-- The state of the shared pool: the pool in use, how many pools were created (they are numbered
from zero), which pools were closed, the pool that each closing under way waits for, and the
operations. -/
structure Pool where
  current : Option Nat := none
  created : Nat := 0
  closed : List Nat := []
  closing : List Nat := []
  operations : Ledger Nat PoolUse := []
  deriving Repr, DecidableEq

/-- What can happen to the shared pool. -/
inductive PoolEvent where
  /-- A new operation arrives. -/
  | arrive (operation : Nat)
  /-- The creation that an operation asked for succeeds. -/
  | granted (operation : Nat)
  /-- The creation that an operation asked for fails. -/
  | denied (operation : Nat)
  /-- A running operation ends. -/
  | finish (operation : Nat)
  /-- A closing of the pool in use begins. -/
  | closeBegin
  /-- A closing that waits for a pool ends. -/
  | closeEnd (pool : Nat)
  deriving Repr, DecidableEq

namespace Pool

/-- The state after an event; an event that cannot happen changes nothing. -/
def step (p : Pool) : PoolEvent → Pool
  | .arrive op =>
    match p.current with
    | some pool => { p with operations := p.operations.put op (.running pool) }
    | none => { p with operations := p.operations.put op .requesting }
  | .granted op =>
    if p.operations.get? op = some .requesting then
      { p with
        current := some p.created
        created := p.created + 1
        operations := p.operations.put op (.running p.created) }
    else p
  | .denied op =>
    if p.operations.get? op = some .requesting then
      { p with operations := p.operations.put op .refused }
    else p
  | .finish op =>
    match p.operations.get? op with
    | some (.running _) => { p with operations := p.operations.put op .finished }
    | _ => p
  | .closeBegin =>
    match p.current with
    | some pool => { p with closing := p.closing ++ [pool] }
    | none => p
  | .closeEnd pool =>
    if pool ∈ p.closing then
      { p with
        current := none
        closing := p.closing.erase pool
        closed := if pool ∈ p.closed then p.closed else p.closed ++ [pool] }
    else p

/-- The state after a sequence of events. -/
def run (p : Pool) (events : List PoolEvent) : Pool := events.foldl step p

end Pool

end EntitySearch
