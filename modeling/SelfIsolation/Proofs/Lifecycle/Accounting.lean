import SelfIsolation.Lifecycle.Record
import SelfIsolation.Proofs.Capability.Inclusion
import SelfIsolation.Proofs.Simulation.Rule

/-! # Accounting for what was given up

A privilege record accounts for a process (`SelfIsolation.PrivilegeRecord.Accounts`)
when it claims no more than the process gave up since it started. The process
changes first and the record afterwards, so each statement takes both changes
together: after them the record still accounts for the process.
-/

namespace SelfIsolation

/-- The path of the user namespace joined last, `inherited` being the one before the first step. -/
def UserNamespace.path (inherited : Option String) : UserNamespace → Option String
  | .inherited => inherited
  | .joined path => some path
  | .created => none

/-- A record accounts for a process that started as `start`. Recorded capability sets cover those
of the process, and whatever the record says was given up is given up. What the record does not
mention is as it was at the start. -/
structure PrivilegeRecord.Accounts (record : PrivilegeRecord) (start process : SimulatedProcess) :
    Prop where
  caps : ∀ sets, record.caps = some sets → sets.Covers process.caps
  bounding : ∀ set, record.bounding = some set → process.bounding ⊆ set
  namespaces : ∀ kind, record.namespaces.contains kind = true →
    process.unshared.contains kind = true
  groups : record.groupsCleared = true → process.groups = []
  filesystem : process.filesystemVisible = (record.filesystemVisible && start.filesystemVisible)
  dumpable : process.dumpable = (record.dumpable && start.dumpable)
  filter : process.filter = record.filter.or start.filter
  userNamespace : process.userNamespace = record.userNamespace.path start.userNamespace

namespace PrivilegeRecord.Accounts

variable {record : PrivilegeRecord} {start process : SimulatedProcess}

/-- An empty record accounts for every process that did nothing yet. -/
theorem initial (start : SimulatedProcess) : PrivilegeRecord.start.Accounts start start where
  caps := fun _ absent => by cases absent
  bounding := fun _ absent => by cases absent
  namespaces := fun kind member => by cases kind <;> cases member
  groups := fun absent => by cases absent
  filesystem := (Bool.true_and _).symm
  dumpable := (Bool.true_and _).symm
  filter := rfl
  userNamespace := rfl

/-- A record accounts for a smaller bounding set. -/
theorem dropBounding (accounts : record.Accounts start process) {set : CapSet}
    (narrower : set ⊆ process.bounding) :
    record.Accounts start { process with bounding := set } :=
  { accounts with
    bounding := fun recorded same =>
      CapSet.subset_trans narrower (accounts.bounding recorded same) }

theorem clearGroups (accounts : record.Accounts start process) :
    record.Accounts start { process with groups := [] } :=
  { accounts with groups := fun _ => rfl }

/-- A record accounts for another user identity, which costs capabilities if anything. -/
theorem setUid (accounts : record.Accounts start process) (uid : UInt32) :
    record.Accounts start
      { process with caps := process.capsAs uid, uid, effectiveUid := uid } :=
  { accounts with
    caps := by
      intro sets same
      have covers := accounts.caps sets same
      change sets.Covers (process.capsAs uid)
      unfold SimulatedProcess.capsAs
      split
      · exact covers.restrict ∅
      · exact covers }

/-- The identities are recorded, and the groups if they were cleared. -/
theorem withIdentity (accounts : record.Accounts start process) (uid gid : UInt32)
    {cleared : Bool} (groups : cleared = true → process.groups = []) :
    (record.withIdentity uid gid cleared).Accounts start process :=
  { accounts with groups := groups }

/-- Capabilities in a new user namespace are not accounted for. -/
theorem withUserNamespace (accounts : record.Accounts start process)
    (userNamespace : UserNamespace) :
    (record.withUserNamespace userNamespace).Accounts start
      (process.enterUserNamespace (userNamespace.path start.userNamespace)) :=
  { accounts with
    caps := fun _ absent => by cases absent
    userNamespace := rfl }

/-- Capability sets are recorded as they were written. -/
theorem withCaps (accounts : record.Accounts start process) (sets : ProcessCaps) :
    { record with caps := some sets }.Accounts start { process with caps := sets } :=
  { accounts with
    caps := by
      intro recorded same
      cases same
      exact .refl sets }

/-- A bounding set is recorded that covers the one of the process. -/
theorem withBounding (accounts : record.Accounts start process) {set : CapSet}
    (bounds : process.bounding ⊆ set) :
    { record with bounding := some set }.Accounts start process :=
  { accounts with
    bounding := by
      intro recorded same
      cases same
      exact bounds }

/-- Namespaces are recorded that were left behind. -/
theorem withNamespaces (accounts : record.Accounts start process) (set : NamespaceSet) :
    { record with namespaces := set }.Accounts start
      { process with unshared := process.unshared ∪ set } :=
  { accounts with
    namespaces := by
      intro kind member
      cases kind <;> exact Bool.or_eq_true_iff.mpr (.inr member) }

/-- The filesystem is recorded as hidden once it is. -/
theorem hideFilesystem (accounts : record.Accounts start process) :
    { record with filesystemVisible := false }.Accounts start
      { process with filesystemVisible := false } :=
  { accounts with filesystem := rfl }

theorem forbidDumps (accounts : record.Accounts start process) :
    { record with dumpable := false }.Accounts start { process with dumpable := false } :=
  { accounts with dumpable := rfl }

/-- A filter is recorded once it is installed. -/
theorem withFilter (accounts : record.Accounts start process) (profile : FilterProfile) :
    { record with filter := some profile }.Accounts start
      { process with filter := some profile } :=
  { accounts with filter := rfl }

end PrivilegeRecord.Accounts

end SelfIsolation
