import SelfIsolation.Capability.ProcessCaps
import SelfIsolation.EmptyRoot
import SelfIsolation.Filter.Basic
import SelfIsolation.Log

/-! # Kernels

The interface through which the stages act on a process. A kernel is any state that
answers these operations; it may be a simulation or a host. Every operation keeps
the changes made before it failed.
-/

namespace SelfIsolation

/-- A kernel together with the log that is written while it is used. -/
structure Machine (κ : Type) where
  kernel : κ
  log : List LogRecord := []

/-- An operation on a kernel, which may report and may fail. -/
abbrev KernelAction (κ ε α : Type) := EStateM ε (Machine κ) α

namespace Machine

/-- The machine with one more report. -/
def report {κ : Type} (machine : Machine κ) (level : LogLevel) (text : String) : Machine κ :=
  { machine with log := machine.log ++ [⟨level, text⟩] }

/-- Asks the kernel a question. -/
def ask {κ α : Type} (machine : Machine κ) (question : StateM κ α) : α × Machine κ :=
  let (value, kernel) := question.run machine.kernel
  (value, { machine with kernel })

end Machine

namespace KernelAction

variable {κ ε α : Type}

/-- An operation that reports nothing. -/
def silent (action : EStateM ε κ α) : KernelAction κ ε α := fun machine =>
  match action machine.kernel with
  | .ok value kernel => .ok value { machine with kernel }
  | .error e kernel => .error e { machine with kernel }

/-- A question to the kernel, which cannot fail. -/
def asking (question : StateM κ α) : KernelAction κ ε α := fun machine =>
  let (value, machine) := machine.ask question
  .ok value machine

/-- Adds a report to the log. -/
def note (level : LogLevel) (text : String) : KernelAction κ ε Unit := fun machine =>
  .ok () (machine.report level text)

end KernelAction

/-- The operations of a kernel on the process that uses it. -/
class Kernel (κ : Type) where
  readCaps : KernelAction κ Errno ProcessCaps
  writeCaps : ProcessCaps → KernelAction κ Errno Unit
  dropBounding : Nat → KernelAction κ Errno Unit
  /-- Reads the bounding set; what cannot be read counts as absent. -/
  boundingSet : Machine κ → CapSet × Machine κ
  /-- Closes every descriptor but the standard streams and one other. -/
  closeDescriptors : Option Int32 → KernelAction κ Failure Unit
  clearGroups : KernelAction κ Errno Unit
  setGid : UInt32 → KernelAction κ Errno Unit
  setUid : UInt32 → KernelAction κ Errno Unit
  joinUserNamespace : String → KernelAction κ Failure Unit
  /-- Creates a user namespace in which the given identities are the superuser's. -/
  createUserNamespace : UInt32 → UInt32 → KernelAction κ Failure Unit
  unshare : NamespaceSet → KernelAction κ Failure Unit
  isolateFilesystem : EmptyRoot → KernelAction κ Failure Unit
  disableCoreDumps : KernelAction κ Failure Unit
  installFilter : Filter → KernelAction κ Failure Unit
  effectiveUid : Machine κ → UInt32
  /-- Finds out whether the process is in the outermost user namespace. -/
  inInitialUserNamespace : Machine κ → Bool × Machine κ

end SelfIsolation
