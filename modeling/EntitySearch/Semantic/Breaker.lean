import EntitySearch.Text.Basic
/-!
# The circuit breaker

A circuit breaker guards calls to a service. Failures open it when there have been enough of them in
a row, and while it is open calls are rejected. Once the recovery time has passed since the latest
failure, the next call is let through as a trial. `Breaker.accept`, `succeed` and `fail` are its
transitions.

Times are of any type with a difference and an order.
-/

namespace EntitySearch

/-- The state of a circuit breaker. -/
inductive BreakerState where
  /-- Calls pass. -/
  | closed
  /-- Calls are rejected. -/
  | opened
  /-- The recovery time has passed, and the service is being tried. -/
  | halfOpen
  deriving Repr, DecidableEq

/-- The name of a state. -/
def BreakerState.name : BreakerState → String
  | closed => "closed"
  | opened => "open"
  | halfOpen => "half_open"

/-- A circuit breaker, with times of type `τ`. -/
structure Breaker (τ : Type) where
  name : Text
  /-- How many failures open the breaker. -/
  threshold : Int
  /-- How long the breaker stays open. -/
  recovery : τ
  failureCount : Nat := 0
  lastFailure : Option τ := none
  state : BreakerState := .closed
  deriving Repr

/-- A call was rejected by an open breaker. -/
structure BreakerOpen where
  name : Text
  deriving Repr, DecidableEq

/-- What is reported of a rejected call. -/
def BreakerOpen.message (e : BreakerOpen) : Text := "Circuit breaker " ++ e.name ++ " is open"

namespace Breaker

variable {τ : Type} [Sub τ] [LE τ] [DecidableLE τ]

/-- Whether the recovery time has passed at a moment. -/
def recovered (b : Breaker τ) (now : τ) : Bool :=
  match b.lastFailure with
  | none => true
  | some last => decide (b.recovery ≤ now - last)

/-- Lets a call through or rejects it. A call that passes an open breaker makes it half open. -/
def accept (b : Breaker τ) (now : τ) : Except BreakerOpen (Breaker τ) :=
  match b.state with
  | .opened => if b.recovered now then pure { b with state := .halfOpen } else throw ⟨b.name⟩
  | _ => pure b

omit [Sub τ] [LE τ] [DecidableLE τ] in
/-- A call has succeeded: the breaker is closed. -/
def succeed (b : Breaker τ) : Breaker τ := { b with state := .closed, failureCount := 0 }

omit [Sub τ] [LE τ] [DecidableLE τ] in
/-- A call has failed: the breaker opens if it was being tried or failures are enough. -/
def fail (b : Breaker τ) (now : τ) : Breaker τ :=
  { b with
    failureCount := b.failureCount + 1
    lastFailure := some now
    state :=
      if b.state = .halfOpen ∨ b.threshold ≤ ((b.failureCount + 1 : Nat) : Int) then .opened
      else b.state }

end Breaker

end EntitySearch
