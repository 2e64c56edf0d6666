import SelfIsolation.Host.Kernel
import SelfIsolation.Lifecycle.Session

/-! # Programs

A program acts on a host, writes to its two output streams, and ends with a status.
An isolation step that fails ends it at once, with a report in the log.
-/

namespace SelfIsolation

/-- How a program ends. -/
inductive Ending where
  | exited (status : UInt8)
  | violated (violation : Violation)
  deriving DecidableEq

/-- A program under way. -/
structure Terminal extends Session Host where
  output : String := ""
  errors : String := ""

/-- A part of a program. -/
abbrev Program (α : Type) := EStateM Ending Terminal α

namespace Program

variable {α : Type}

/-- The status of success. -/
def success : UInt8 := 0

/-- The status of failure. -/
def failure : UInt8 := 1

/-- Ends the program. -/
def exit (status : UInt8) : Program α := throw (.exited status)

/-- Writes a line. -/
def printLine (line : String) : Program Unit :=
  modify fun terminal => { terminal with output := terminal.output ++ line ++ "\n" }

/-- Writes a line to the error output. -/
def complain (line : String) : Program Unit :=
  modify fun terminal => { terminal with errors := terminal.errors ++ line ++ "\n" }

/-- Writes what went wrong, and ends the program. -/
def refuse (reason : String) : Program α := do
  complain s!"error: {reason}"
  exit failure

/-- Adds a report to the log. -/
def note (level : LogLevel) (text : String) : Program Unit :=
  modify fun terminal => { terminal with log := terminal.log ++ [⟨level, text⟩] }

/-- Asks the host a question. -/
def ask (question : StateM Host α) : Program α := fun terminal =>
  let (value, kernel) := question.run terminal.kernel
  .ok value { terminal with kernel }

/-- How an action on the host ended. -/
def attempt (action : Host.Action α) : Program (Except Failure α) := fun terminal =>
  match action terminal.toMachine with
  | .ok value machine => .ok (.ok value) { terminal with toMachine := machine }
  | .error failure machine => .ok (.error failure) { terminal with toMachine := machine }

/-- Reports a failure of isolation, and ends the program. What was half done is not gone on with.
The log takes every record here; only a log that takes no errors would have the failure written to
the error output instead. -/
def die (reason : Failure) : Program α := do
  note .error reason.message
  exit failure

/-- Acts on the host; a failure ends the program. -/
def orDie (action : Host.Action α) : Program α := do
  match ← attempt action with
  | .ok value => return value
  | .error reason => die reason

/-- Takes an isolation step; a failure ends the program. -/
def takeStep (step : Isolating Host Unit) : Program Unit := fun terminal =>
  match step terminal.toSession with
  | .ok () session => .ok () { terminal with toSession := session }
  | .error (.failed reason) session => die reason { terminal with toSession := session }
  | .error (.violated violation) session =>
    .error (.violated violation) { terminal with toSession := session }

end Program

end SelfIsolation
