import SelfIsolation.Capability.ProcessCaps
import SelfIsolation.EmptyRoot
import SelfIsolation.Filter.Basic
import SelfIsolation.Operation

/-! # Calls of a simulated process

What a simulated process was asked to do: an operation with its arguments. The text
of a call is what a rehearsal of the isolation steps shows.
-/

namespace SelfIsolation

/-- An operation with its arguments. -/
inductive SimulatedCall where
  | readCaps
  | writeCaps (sets : ProcessCaps)
  | dropBounding (bit : Nat)
  | closeDescriptors (keep : Option Int32)
  | clearGroups
  | setGid (gid : UInt32)
  | setUid (uid : UInt32)
  | joinUserNamespace (path : String)
  /-- Creates a user namespace in which the given identities are the superuser's. -/
  | createUserNamespace (uid gid : UInt32)
  | unshare (set : NamespaceSet)
  | isolateFilesystem (root : EmptyRoot)
  | disableCoreDumps
  | installFilter (profile : FilterProfile)
  deriving DecidableEq

namespace SimulatedCall

/-- The operation of a call. -/
def operation : SimulatedCall → Operation
  | .readCaps => .readCaps
  | .writeCaps _ => .writeCaps
  | .dropBounding _ => .dropBounding
  | .closeDescriptors _ => .closeDescriptors
  | .clearGroups => .clearGroups
  | .setGid _ => .setGid
  | .setUid _ => .setUid
  | .joinUserNamespace _ => .joinUserNamespace
  | .createUserNamespace _ _ => .createUserNamespace
  | .unshare _ => .unshare
  | .isolateFilesystem _ => .isolateFilesystem
  | .disableCoreDumps => .disableCoreDumps
  | .installFilter _ => .installFilter

/-- The call as text; an operation without arguments is written as its name. -/
def text : SimulatedCall → String
  | .writeCaps sets =>
    s!"capset(effective={sets.effective}, permitted={sets.permitted}, " ++
      s!"inheritable={sets.inheritable})"
  | .dropBounding bit => s!"PR_CAPBSET_DROP({bit})"
  | .closeDescriptors (some keep) => s!"close_range(keep={keep})"
  | .closeDescriptors none => "close_range(3, ~0)"
  | .setGid gid => s!"setgid({gid})"
  | .setUid uid => s!"setuid({uid})"
  | .joinUserNamespace path => s!"setns({path}, CLONE_NEWUSER)"
  | .createUserNamespace uid gid =>
    s!"unshare(CLONE_NEWUSER) uid_map={idMapLine 0 uid} gid_map={idMapLine 0 gid}"
  | .unshare set => s!"unshare({set.flagText})"
  | .isolateFilesystem root => s!"pivot_root(empty tmpfs on {root.scratch})"
  | .installFilter profile => s!"seccomp({profile})"
  | call => call.operation.name

instance : ToString SimulatedCall := ⟨text⟩

end SimulatedCall

end SelfIsolation
