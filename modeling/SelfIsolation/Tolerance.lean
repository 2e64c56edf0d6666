import SelfIsolation.Failure
import SelfIsolation.Log

/-! # Tolerance of errors

Every failed call is fatal unless the step that made it says which error numbers
it passes over. What was passed over is reported where the step asks for it.
-/

namespace SelfIsolation

/-- How a call ended that did not fail for good. -/
inductive Outcome where
  | applied
  | tolerated (errno : Errno)
  deriving DecidableEq

namespace Outcome

/-- Holds if the call took effect. -/
def isApplied : Outcome → Bool
  | .applied => true
  | .tolerated _ => false

/-- The report of a failure that was passed over. -/
def notice (attempt : Attempt) : Outcome → List LogRecord
  | .applied => []
  | .tolerated errno => [⟨.warn, s!"{attempt} (tolerated): {errno}"⟩]

end Outcome

/-- The error numbers that a step passes over. -/
structure Tolerance where
  errnos : List Errno
  deriving DecidableEq

namespace Tolerance

/-- Nothing is passed over. -/
def fatal : Tolerance := ⟨[]⟩

/-- Holds of the numbers that are passed over. -/
def tolerates (tolerance : Tolerance) (errno : Errno) : Bool := errno ∈ tolerance.errnos

/-- How a call ended: a failure that is not passed over stays one. -/
def check (tolerance : Tolerance) (attempt : Attempt) : Except Errno α → Except Failure Outcome
  | .ok _ => .ok .applied
  | .error errno =>
    if tolerance.tolerates errno then .ok (.tolerated errno) else .error (.call attempt errno)

end Tolerance

end SelfIsolation
