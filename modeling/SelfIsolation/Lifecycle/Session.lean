import SelfIsolation.Kernel
import SelfIsolation.Lifecycle.Record
import SelfIsolation.Tolerance

/-! # Sessions

A session is a machine under isolation with the record of what was given up. A step
of a session ends well, fails, or violates the protocol; in each case it keeps the
changes made before.
-/

namespace SelfIsolation

/-- A machine with its privilege record. -/
structure Session (κ : Type) extends Machine κ where
  privileges : PrivilegeRecord := .start

/-- Why a step did not end well. -/
inductive Fault where
  | failed (failure : Failure)
  | violated (violation : Violation)
  deriving DecidableEq

/-- A step of a session. -/
abbrev Isolating (κ α : Type) := EStateM Fault (Session κ) α

namespace Isolating

variable {κ α : Type}

/-- A step that fails. -/
def fail (failure : Failure) : Isolating κ α := throw (.failed failure)

/-- A step that only looks at the machine. -/
def observe (observation : Machine κ → α × Machine κ) : Isolating κ α := fun session =>
  let (value, machine) := observation session.toMachine
  .ok value { session with toMachine := machine }

/-- An operation of the kernel whose failure ends the step. -/
def perform (action : KernelAction κ Failure α) : Isolating κ α := fun session =>
  match action session.toMachine with
  | .ok value machine => .ok value { session with toMachine := machine }
  | .error failure machine => .error (.failed failure) { session with toMachine := machine }

/-- How an operation of the kernel ended. -/
def outcome {ε : Type} (action : KernelAction κ ε α) : Isolating κ (Except ε α) := fun session =>
  match action session.toMachine with
  | .ok value machine => .ok (.ok value) { session with toMachine := machine }
  | .error e machine => .ok (.error e) { session with toMachine := machine }

/-- An operation of the kernel that fails with an error number, which ends the step. -/
def attempt (attempt : Attempt) (action : KernelAction κ Errno α) : Isolating κ α := do
  match ← outcome action with
  | .ok value => return value
  | .error errno => fail (.call attempt errno)

/-- An operation of the kernel whose failure may be passed over. -/
def tolerate (tolerance : Tolerance) (attempt : Attempt) (action : KernelAction κ Errno α) :
    Isolating κ Outcome := do
  match tolerance.check attempt (← outcome action) with
  | .ok outcome => return outcome
  | .error failure => fail failure

/-- Adds a report to the log. -/
def note (level : LogLevel) (text : String) : Isolating κ Unit :=
  perform (KernelAction.note level text)

/-- Changes the record. -/
def recording (change : PrivilegeRecord → PrivilegeRecord) : Isolating κ Unit :=
  modify fun session => { session with privileges := change session.privileges }

/-- Changes the record where the change is allowed. -/
def recordingChecked (change : PrivilegeRecord → Except Violation PrivilegeRecord) :
    Isolating κ Unit := do
  match change (← get).privileges with
  | .ok privileges => recording fun _ => privileges
  | .error violation => throw (.violated violation)

end Isolating

end SelfIsolation
