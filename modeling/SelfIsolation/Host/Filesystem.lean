import SelfIsolation.Host.Action

/-! # Reducing the filesystem of a host's process

An empty directory in memory is mounted over the scratch directory, becomes the
root, and the old root is detached.
-/

namespace SelfIsolation.Host

/-- Cuts the root and all below it off from mount events. -/
def unbindFlags : BitVec 32 := 0x24000

/-- Detaches a mount at once, without following links. -/
def detachFlags : BitVec 32 := 0xa

/-- Reduces the filesystem to an empty root. -/
def isolateFilesystem (root : EmptyRoot) : Action Unit := do
  if ← .asking (isDirectory root.scratch) then
    attempt .unbindRoot (act (.mount none "/" none unbindFlags none))
    attempt (.mountScratch root.scratch)
      (act (.mount (some "") root.scratch (some "tmpfs") EmptyRoot.mountBits
        (some EmptyRoot.mountOptions)))
    attempt (.enterScratch root.scratch) (act (.enterDirectory root.scratch))
    attempt .pivotRoot (act (.pivotRoot "." "."))
    attempt .detachOldRoot (act (.unmount "." detachFlags))
    note .debug "Filesystem reduced to empty root"
  else throw (.configuration (.missingScratch root.scratch))

end SelfIsolation.Host
