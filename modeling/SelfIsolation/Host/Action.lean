import SelfIsolation.Host.Files
import SelfIsolation.Kernel

/-! # Actions on a host

Steps of several calls, of which the first that fails ends the step and says what
was being done.
-/

namespace SelfIsolation.Host

/-- A step on a host, which may report and may fail. -/
abbrev Action (α : Type) := KernelAction Host Failure α

/-- A call whose failure says what was being done. -/
def attempt {α : Type} (attempt : Attempt) (call : EStateM Int Host α) : Action α :=
  .silent (EStateM.adaptExcept (fun code => .call attempt (.ofCode code)) call)

/-- Use of a file whose failure is told in the given way. -/
def onFile {α : Type} (failure : FileFault → Failure) (use : EStateM FileFault Host α) : Action α :=
  .silent (EStateM.adaptExcept failure use)

/-- Adds a report to the log. -/
def note (level : LogLevel) (text : String) : Action Unit := KernelAction.note level text

end SelfIsolation.Host
