import SelfIsolation.Descriptor
import SelfIsolation.Simulation.Call

/-! # Simulated processes

The part of a process that the isolation steps change, and the rules by which an
operating system lets it change. Capability sets only narrow within a user
namespace, identities change only with the right to, and the root can be replaced
only where mounts are private. Each rule answers with the process as it is
afterwards, or refuses and leaves the process as it was.
-/

namespace SelfIsolation

/-- A process as the isolation steps see it. -/
structure SimulatedProcess where
  caps : ProcessCaps
  bounding : CapSet
  uid : UInt32
  gid : UInt32
  effectiveUid : UInt32
  groups : List UInt32
  /-- The process is in the outermost user namespace. -/
  inInitialUserNamespace : Bool
  /-- The open descriptors, in ascending order. -/
  descriptors : List Int32
  unshared : NamespaceSet
  /-- The path of the user namespace that was joined last. -/
  userNamespace : Option String
  filesystemVisible : Bool
  dumpable : Bool
  filter : Option FilterProfile
  deriving DecidableEq

namespace SimulatedProcess

/-- The superuser in the outermost user namespace, with every capability. -/
def root : SimulatedProcess where
  caps := { effective := CapSet.all, permitted := CapSet.all }
  bounding := CapSet.all
  uid := 0
  gid := 0
  effectiveUid := 0
  groups := [0]
  inInitialUserNamespace := true
  descriptors := [0, 1, 2, 3, 4, 5, 6, 7]
  unshared := ∅
  userNamespace := none
  filesystemVisible := true
  dumpable := true
  filter := none

/-- A user without capabilities. -/
def unprivileged (uid gid : UInt32) : SimulatedProcess :=
  { root with caps := {}, uid, gid, effectiveUid := uid, groups := [gid] }

/-- The process with exactly the given descriptors open. -/
def withDescriptors (process : SimulatedProcess) (descriptors : List Int32) : SimulatedProcess :=
  { process with
    descriptors := descriptors.eraseDups.mergeSort fun left right => decide (left ≤ right) }

/-- Holds of the capabilities that the process may use. -/
def has (process : SimulatedProcess) (capability : Capability) : Bool :=
  process.caps.effective.contains capability

/-- What the process may hand on at most. -/
def inheritableLimit (process : SimulatedProcess) : CapSet :=
  process.caps.inheritable ∪ process.caps.permitted ∩ process.bounding

/-- Replaces the capability sets. Nothing is added to the permitted set, the effective set is part
of it, and the inheritable set stays within its limit. -/
def writeCaps (sets : ProcessCaps) (process : SimulatedProcess) : Except Errno SimulatedProcess :=
  if sets.permitted ⊆ process.caps.permitted ∧ sets.effective ⊆ sets.permitted ∧
      sets.inheritable ⊆ process.inheritableLimit then
    .ok { process with caps := sets }
  else .error .eperm

/-- Drops a bit from the bounding set. It has to be the bit of a capability. -/
def dropBounding (bit : Nat) (process : SimulatedProcess) : Except Errno SimulatedProcess :=
  match Capability.ofBit? bit with
  | none => .error .einval
  | some capability =>
    if process.has .setpcap then
      .ok { process with bounding := process.bounding.erase capability }
    else .error .eperm

/-- Closes every descriptor but the standard streams and one other. -/
def closeDescriptors (keep : Option Int32) (process : SimulatedProcess) : SimulatedProcess :=
  { process with
    descriptors := process.descriptors.filter fun descriptor =>
      !Descriptor.isSwept keep descriptor }

/-- Drops the supplementary groups. -/
def clearGroups (process : SimulatedProcess) : Except Errno SimulatedProcess :=
  if process.has .setgid then .ok { process with groups := [] } else .error .eperm

/-- Changes the group identity; staying the same needs no right. -/
def setGid (gid : UInt32) (process : SimulatedProcess) : Except Errno SimulatedProcess :=
  if gid = process.gid ∨ process.has .setgid then .ok { process with gid } else .error .eperm

/-- Changes the user identity; staying the same needs no right. A superuser who becomes someone
else loses the effective and the permitted set. -/
def setUid (uid : UInt32) (process : SimulatedProcess) : Except Errno SimulatedProcess :=
  if uid = process.uid ∨ process.has .setuid then
    let caps :=
      if process.effectiveUid = 0 ∧ uid ≠ 0 then process.caps.restrict ∅ else process.caps
    .ok { process with caps, uid, effectiveUid := uid }
  else .error .eperm

/-- Enters a user namespace, in which the process has every capability. -/
def enterUserNamespace (path : Option String) (process : SimulatedProcess) : SimulatedProcess :=
  { process with
    caps := { process.caps with effective := CapSet.all, permitted := CapSet.all }
    inInitialUserNamespace := false
    userNamespace := path }

/-- Joins the user namespace at a path. -/
def joinUserNamespace (path : String) (process : SimulatedProcess) : SimulatedProcess :=
  process.enterUserNamespace (some path)

/-- Creates a user namespace, in which the process is the superuser. -/
def createUserNamespace (process : SimulatedProcess) : SimulatedProcess :=
  { process.enterUserNamespace none with uid := 0, gid := 0, effectiveUid := 0 }

/-- Refuses an operation to a process without the capability it needs. -/
def require (operation : Operation) (capability : Capability) (process : SimulatedProcess) :
    Except Failure Unit :=
  if process.has capability then .ok ()
  else .error (.call (.simulatedWithout operation capability) .eperm)

/-- Leaves namespaces behind. -/
def unshare (set : NamespaceSet) (process : SimulatedProcess) :
    Except Failure SimulatedProcess := do
  process.require .unshare .sysAdmin
  return { process with unshared := process.unshared ∪ set }

/-- Reduces the filesystem to an empty root. -/
def isolateFilesystem (process : SimulatedProcess) : Except Failure SimulatedProcess := do
  process.require .isolateFilesystem .sysAdmin
  if process.unshared.mount then return { process with filesystemVisible := false }
  else throw (.call .simulatedSharedRoot .einval)

/-- Forbids core dumps. -/
def disableCoreDumps (process : SimulatedProcess) : SimulatedProcess :=
  { process with dumpable := false }

/-- Installs a filter, which has to compile. -/
def installFilter (filter : Filter) (process : SimulatedProcess) :
    Except Failure SimulatedProcess :=
  match filter.compile with
  | .ok _ => .ok { process with filter := some filter.profile }
  | .error reason => .error (.filter reason)

end SimulatedProcess

end SelfIsolation
