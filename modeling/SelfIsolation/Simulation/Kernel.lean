import SelfIsolation.Kernel
import SelfIsolation.Simulation.Process

/-! # Simulated kernels

A simulated process with a journal of the calls made and a table of failures. A
call is journaled first, then meets the failure asked for its operation, if any,
and only then the rules of the process. So a call that fails changes nothing but
the journal.

A rule is a function from the process to the process after the call, or to an error
without one. Nothing is lost by that: every rule makes all its checks before its
first update, so there is no call that fails with a part of its updates done.
-/

namespace SelfIsolation

/-- A simulated process, its journal, and the failures it will meet. -/
structure SimulatedKernel where
  process : SimulatedProcess := .root
  journal : List SimulatedCall := []
  failure : Operation → Option Errno := fun _ => none

namespace SimulatedKernel

instance : Inhabited SimulatedKernel := ⟨{}⟩

/-- A kernel that runs the superuser. -/
def root : SimulatedKernel := {}

/-- A kernel that runs a user without capabilities. -/
def unprivileged (uid gid : UInt32) : SimulatedKernel := { process := .unprivileged uid gid }

/-- Makes every later call of an operation fail. -/
def fail (kernel : SimulatedKernel) (operation : Operation) (errno : Errno) : SimulatedKernel :=
  { kernel with
    failure := fun other => if other = operation then some errno else kernel.failure other }

/-- Takes back a failure. -/
def clearFailure (kernel : SimulatedKernel) (operation : Operation) : SimulatedKernel :=
  { kernel with
    failure := fun other => if other = operation then none else kernel.failure other }

/-- How many calls of an operation are in the journal. -/
def count (kernel : SimulatedKernel) (operation : Operation) : Nat :=
  kernel.journal.countP fun call => call.operation = operation

/-- The journal, and the kernel with an empty one. -/
def takeJournal (kernel : SimulatedKernel) : List SimulatedCall × SimulatedKernel :=
  (kernel.journal, { kernel with journal := [] })

/-- The kernel after a call was journaled. -/
def enter (kernel : SimulatedKernel) (call : SimulatedCall) : SimulatedKernel :=
  { kernel with journal := kernel.journal ++ [call] }

variable {ε : Type}

/-- Makes a call: journals it, meets the failure asked for, or follows the rule of the process. -/
def make (call : SimulatedCall) (injected : Errno → ε)
    (rule : SimulatedProcess → Except ε SimulatedProcess) : EStateM ε SimulatedKernel Unit :=
  fun kernel =>
    match kernel.failure call.operation with
    | some errno => .error (injected errno) (kernel.enter call)
    | none =>
      match rule kernel.process with
      | .ok process => .ok () { kernel.enter call with process }
      | .error e => .error e (kernel.enter call)

/-- A call that fails with an error number. -/
def primitive (call : SimulatedCall) (rule : SimulatedProcess → Except Errno SimulatedProcess) :
    EStateM Errno SimulatedKernel Unit :=
  make call id rule

/-- A call whose failure says what was being done. -/
def composite (call : SimulatedCall) (rule : SimulatedProcess → Except Failure SimulatedProcess) :
    EStateM Failure SimulatedKernel Unit :=
  make call (.call (.simulated call.operation)) rule

/-- Reads the capability sets. -/
def readCaps : EStateM Errno SimulatedKernel ProcessCaps := do
  primitive .readCaps .ok
  return (← get).process.caps

end SimulatedKernel

open SimulatedKernel in
instance : Kernel SimulatedKernel where
  readCaps := .silent readCaps
  writeCaps sets := .silent (primitive (.writeCaps sets) (·.writeCaps sets))
  dropBounding bit := .silent (primitive (.dropBounding bit) (·.dropBounding bit))
  boundingSet machine := (machine.kernel.process.bounding, machine)
  closeDescriptors keep :=
    .silent (composite (.closeDescriptors keep) fun process => .ok (process.closeDescriptors keep))
  clearGroups := .silent (primitive .clearGroups (·.clearGroups))
  setGid gid := .silent (primitive (.setGid gid) (·.setGid gid))
  setUid uid := .silent (primitive (.setUid uid) (·.setUid uid))
  joinUserNamespace path :=
    .silent (composite (.joinUserNamespace path) fun process =>
      .ok (process.joinUserNamespace path))
  createUserNamespace uid gid :=
    .silent (composite (.createUserNamespace uid gid) fun process =>
      .ok process.createUserNamespace)
  unshare set := .silent (composite (.unshare set) (·.unshare set))
  isolateFilesystem root := .silent (composite (.isolateFilesystem root) (·.isolateFilesystem))
  disableCoreDumps :=
    .silent (composite .disableCoreDumps fun process => .ok process.disableCoreDumps)
  installFilter filter :=
    .silent (composite (.installFilter filter.profile) (·.installFilter filter))
  effectiveUid machine := machine.kernel.process.effectiveUid
  inInitialUserNamespace machine := (machine.kernel.process.inInitialUserNamespace, machine)

end SelfIsolation
