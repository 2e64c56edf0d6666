import SelfIsolation.Capability.ProcessCaps
import SelfIsolation.Tolerance

/-! # Policies of the stages

Which errors the stages pass over, and which capabilities they keep.
-/

namespace SelfIsolation.Policy

/-- Dropping the supplementary groups may be refused to a process without the right to. -/
def clearGroups : Tolerance := ⟨[.eperm]⟩

/-- Dropping a bit from the bounding set may fail where the kernel does not know the bit, and in a
restricted mode also where the process lacks the right. -/
def boundingDrop (operating : OperatingMode) : Tolerance :=
  if operating.isRestricted then ⟨[.einval, .eperm]⟩ else ⟨[.einval]⟩

/-- What is kept while the process is being set up. The superuser of an outer user namespace also
keeps the right to set file capabilities, without which it could not map itself. -/
def setupKeep (effectiveUid : UInt32) (inInitialUserNamespace : Bool) : CapSet :=
  let keep := CapSet.ofList [.netBindService, .setuid, .setgid, .sysAdmin, .netAdmin]
  if effectiveUid = 0 ∧ !inInitialUserNamespace then keep.insert .setfcap else keep

/-- What is kept while the daemon runs. -/
def runtimeKeep (operating : OperatingMode) : CapSet :=
  if operating.isPasta then CapSet.ofList [.sysAdmin, .netBindService] else ∅

end SelfIsolation.Policy
