/-! # Operations of a kernel

The operations through which the isolation stages act, by the name under which a
simulated process reports them and can be made to refuse them.
-/

namespace SelfIsolation

/-- An operation by which a process gives something up. -/
inductive Operation where
  | readCaps
  | writeCaps
  | dropBounding
  | closeDescriptors
  | clearGroups
  | setGid
  | setUid
  | joinUserNamespace
  | createUserNamespace
  | unshare
  | isolateFilesystem
  | disableCoreDumps
  | installFilter
  deriving DecidableEq

namespace Operation

/-- Every operation. -/
def all : List Operation := [
  .readCaps, .writeCaps, .dropBounding, .closeDescriptors, .clearGroups, .setGid, .setUid,
  .joinUserNamespace, .createUserNamespace, .unshare, .isolateFilesystem, .disableCoreDumps,
  .installFilter]

/-- The name of an operation. -/
def name : Operation → String
  | .readCaps => "capget"
  | .writeCaps => "capset"
  | .dropBounding => "PR_CAPBSET_DROP"
  | .closeDescriptors => "close_range"
  | .clearGroups => "setgroups"
  | .setGid => "setgid"
  | .setUid => "setuid"
  | .joinUserNamespace => "setns"
  | .createUserNamespace => "unshare(CLONE_NEWUSER)"
  | .unshare => "unshare"
  | .isolateFilesystem => "pivot_root"
  | .disableCoreDumps => "PR_SET_DUMPABLE"
  | .installFilter => "seccomp"

/-- The operation of a name. -/
def ofName? (name : String) : Option Operation := all.find? fun operation => operation.name = name

instance : ToString Operation := ⟨name⟩

end Operation

end SelfIsolation
