import SelfIsolation.Host.Capabilities
import SelfIsolation.Host.CoreDumps
import SelfIsolation.Host.Descriptors
import SelfIsolation.Host.Filesystem
import SelfIsolation.Host.FilterLoad
import SelfIsolation.Host.Namespaces

/-! # Hosts as kernels

The isolation steps act on a host through the system calls of the process that
takes them.
-/

namespace SelfIsolation

namespace Host

/-- Drops the supplementary groups. -/
def clearGroups : EStateM Errno Host Unit := named (act .dropGroups)

/-- Changes the group identity. -/
def setGid (gid : UInt32) : EStateM Errno Host Unit :=
  named (act (.setGid gid) fun system => { system with gid })

/-- Changes the user identity. -/
def setUid (uid : UInt32) : EStateM Errno Host Unit :=
  named (act (.setUid uid) fun system => { system with uid })

end Host

instance : Kernel Host where
  readCaps := .silent Host.readCaps
  writeCaps sets := .silent (Host.writeCaps sets)
  dropBounding bit := .silent (Host.dropBounding bit)
  boundingSet machine := machine.ask Host.boundingSet
  closeDescriptors := Host.closeDescriptors
  clearGroups := .silent Host.clearGroups
  setGid gid := .silent (Host.setGid gid)
  setUid uid := .silent (Host.setUid uid)
  joinUserNamespace := Host.joinUserNamespace
  createUserNamespace := Host.createUserNamespace
  unshare := Host.unshare
  isolateFilesystem := Host.isolateFilesystem
  disableCoreDumps := Host.disableCoreDumps
  installFilter := Host.installFilter
  effectiveUid machine := machine.kernel.system.effectiveUid
  inInitialUserNamespace machine := machine.ask Host.inInitialUserNamespace

end SelfIsolation
