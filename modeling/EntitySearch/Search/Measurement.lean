import EntitySearch.Text.Basic
/-!
# Measurements

What a search reports to whoever counts: completed searches, fusions, and sources that failed or
missed the deadline.
-/

namespace EntitySearch

/-- Why a source contributes nothing. -/
inductive FailureReason where
  | error | timeout
  /-- A reason of a caller's own. -/
  | other (text : Text)
  deriving Repr, DecidableEq

/-- The name of a reason. -/
def FailureReason.name : FailureReason → Text
  | error => "error"
  | timeout => "timeout"
  | other text => text

/-- Something that is counted. -/
inductive Measurement where
  /-- A search has been completed in a strategy, in a number of seconds, with so many results. -/
  | search (strategy : Text) (seconds : Float) (count : Int)
  | fusion (algorithm : Text)
  | failure (source : Text) (reason : FailureReason)
  /-- A request has been answered. -/
  | request (method endpoint : Text) (status : Int) (seconds : Float)
  deriving Repr

end EntitySearch
