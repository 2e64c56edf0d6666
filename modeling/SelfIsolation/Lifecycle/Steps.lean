import SelfIsolation.Descriptor
import SelfIsolation.Lifecycle.Narrowing

/-! # The four isolation steps

Isolation proceeds in four steps, each of which starts from its own stage and ends
at the next one. A step that fails leaves the stage as it was and may be taken
again; a step taken at another stage is a violation.

* The initial step closes descriptors and narrows capabilities.
* The user step takes on an identity and a user namespace, and empties the bounding set.
* The prefork step leaves namespaces and the filesystem behind.
* The postfork step forbids core dumps and installs the filter.
-/

namespace SelfIsolation

/-- Whom the process becomes. -/
structure UserTarget where
  uid : UInt32
  gid : UInt32
  /-- A user namespace is created where none is joined. -/
  useUserNamespace : Bool
  userNamespace : Option String := none
  operating : OperatingMode
  deriving DecidableEq

/-- What the later steps depend on. -/
structure IsolationContext where
  operating : OperatingMode
  foreground : Bool := false
  root : EmptyRoot := default
  deriving DecidableEq

namespace IsolationContext

/-- The namespaces left behind before forking. A network namespace bridged in the foreground keeps
its process numbers. -/
def preforkNamespaces (context : IsolationContext) : NamespaceSet :=
  NamespaceSet.prefork (!(context.operating.isPasta && context.foreground))

end IsolationContext

namespace Isolating

variable {κ : Type} [Kernel κ]

/-- Refuses a step at any stage but the one it starts from. -/
def requireStage (expected : Stage) (step : String) : Isolating κ Unit := do
  let reached := (← get).privileges.stage
  if reached ≠ expected then throw (.violated (.outOfOrder step reached expected))

/-- Completes a step. -/
def finish : Isolating κ Unit := do
  recordingChecked PrivilegeRecord.advance
  let stage := (← get).privileges.stage
  note .info s!"Isolation stage complete: {stage}"

/-- Closes descriptors and narrows capabilities. -/
def initial (arguments : List String) : Isolating κ Unit := do
  requireStage .startup "Initial isolation"
  match Descriptor.designated arguments with
  | .error reason => fail (.configuration reason)
  | .ok keep =>
    perform (Kernel.closeDescriptors keep)
    recording fun privileges => { privileges with designated := keep }
    let uid := Kernel.effectiveUid (← get).toMachine
    let inInitial ← observe Kernel.inInitialUserNamespace
    restrictCaps (Policy.setupKeep uid inInitial)
    finish

/-- Takes on the identity of a target. -/
def switchIdentity (target : UserTarget) : Isolating κ Unit := do
  let groups ← tolerate Policy.clearGroups .dropGroups Kernel.clearGroups
  (groups.notice .dropGroups).forM fun entry => note entry.level entry.text
  attempt (.setGid target.gid) (Kernel.setGid target.gid)
  attempt (.setUid target.uid) (Kernel.setUid target.uid)
  recording fun privileges => privileges.withIdentity target.uid target.gid groups.isApplied
  note .debug s!"Now running as {target.uid}:{target.gid}"

/-- Enters the user namespace of a target, if it has one. -/
def enterUserNamespace (target : UserTarget) : Isolating κ Unit := do
  match target.userNamespace with
  | some path =>
    perform (Kernel.joinUserNamespace path)
    recording fun privileges => privileges.withUserNamespace (.joined path)
  | none =>
    if target.useUserNamespace then
      perform (Kernel.createUserNamespace target.uid target.gid)
      recording fun privileges => privileges.withUserNamespace .created

/-- Takes on an identity and a user namespace, and empties the bounding set. -/
def user (target : UserTarget) : Isolating κ Unit := do
  requireStage .initial "User isolation"
  switchIdentity target
  enterUserNamespace target
  clampCaps target.operating
  finish

/-- Leaves namespaces and the filesystem behind. -/
def prefork (context : IsolationContext) : Isolating κ Unit := do
  requireStage .userSwitched "Prefork isolation"
  perform (Kernel.unshare context.preforkNamespaces)
  recording fun privileges => { privileges with namespaces := context.preforkNamespaces }
  perform (Kernel.isolateFilesystem context.root)
  recording fun privileges => { privileges with filesystemVisible := false }
  restrictCaps (Policy.runtimeKeep context.operating)
  finish

/-- Forbids core dumps and installs the filter. -/
def postfork (context : IsolationContext) : Isolating κ Unit := do
  requireStage .preforkIsolated "Postfork isolation"
  perform Kernel.disableCoreDumps
  recording fun privileges => { privileges with dumpable := false }
  let filter := Filter.ofMode context.operating
  perform (Kernel.installFilter filter)
  recording fun privileges => { privileges with filter := some filter.profile }
  finish

end Isolating

end SelfIsolation
