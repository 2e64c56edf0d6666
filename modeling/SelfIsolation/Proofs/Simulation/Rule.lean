import SelfIsolation.Proofs.Filter.Compile
import SelfIsolation.Simulation.Process

/-! # What an accepted call changes

Each rule of a simulated process changes one part of the process, if it accepts the
call at all. The statements name that part, so that everything else can be seen to
stay as it was.
-/

namespace SelfIsolation.SimulatedProcess

variable {process next : SimulatedProcess}

/-- The capability sets that are left after an identity is taken on. -/
def capsAs (process : SimulatedProcess) (uid : UInt32) : ProcessCaps :=
  if process.effectiveUid = 0 ∧ uid ≠ 0 then process.caps.restrict ∅ else process.caps

/-- Capability sets are accepted only within the permitted ones. -/
theorem writeCaps_ok {sets : ProcessCaps} (accepted : process.writeCaps sets = .ok next) :
    sets.effective ⊆ sets.permitted ∧ next = { process with caps := sets } := by
  unfold writeCaps at accepted
  split at accepted
  case isTrue allowed =>
    cases accepted
    exact ⟨allowed.2.1, rfl⟩
  case isFalse => cases accepted

/-- Sets are written only where nothing is added to them. -/
theorem writeCaps_allowed {sets : ProcessCaps} (accepted : process.writeCaps sets = .ok next) :
    sets.permitted ⊆ process.caps.permitted ∧ sets.inheritable ⊆ process.inheritableLimit := by
  unfold writeCaps at accepted
  split at accepted
  case isTrue allowed => exact ⟨allowed.1, allowed.2.2⟩
  case isFalse => cases accepted

/-- A bit is dropped only if it is one of a capability. -/
theorem dropBounding_ok {bit : Nat} (accepted : process.dropBounding bit = .ok next) :
    ∃ capability, Capability.ofBit? bit = some capability ∧
      next = { process with bounding := process.bounding.erase capability } := by
  unfold dropBounding at accepted
  cases known : Capability.ofBit? bit with
  | none => simp only [known, reduceCtorEq] at accepted
  | some capability =>
      simp only [known] at accepted
      split at accepted
      case isTrue =>
        cases accepted
        exact ⟨capability, rfl, rfl⟩
      case isFalse => cases accepted

theorem clearGroups_ok (accepted : process.clearGroups = .ok next) :
    next = { process with groups := [] } := by
  unfold clearGroups at accepted
  split at accepted
  case isTrue => cases accepted; rfl
  case isFalse => cases accepted

/-- Groups are cleared only with `CAP_SETGID`. -/
theorem clearGroups_entitled (accepted : process.clearGroups = .ok next) :
    process.has .setgid = true := by
  unfold clearGroups at accepted
  split at accepted
  case isTrue entitled => exact entitled
  case isFalse => cases accepted

theorem setGid_ok {gid : UInt32} (accepted : process.setGid gid = .ok next) :
    next = { process with gid } := by
  unfold setGid at accepted
  split at accepted
  case isTrue => cases accepted; rfl
  case isFalse => cases accepted

/-- Another group identity takes `CAP_SETGID`. -/
theorem setGid_entitled {gid : UInt32} (accepted : process.setGid gid = .ok next) :
    gid = process.gid ∨ process.has .setgid = true := by
  unfold setGid at accepted
  split at accepted
  case isTrue entitled => exact entitled
  case isFalse => cases accepted

theorem setUid_ok {uid : UInt32} (accepted : process.setUid uid = .ok next) :
    next = { process with caps := process.capsAs uid, uid, effectiveUid := uid } := by
  unfold setUid at accepted
  split at accepted
  case isTrue => cases accepted; rfl
  case isFalse => cases accepted

/-- Another user identity takes `CAP_SETUID`. -/
theorem setUid_entitled {uid : UInt32} (accepted : process.setUid uid = .ok next) :
    uid = process.uid ∨ process.has .setuid = true := by
  unfold setUid at accepted
  split at accepted
  case isTrue entitled => exact entitled
  case isFalse => cases accepted

theorem unshare_ok {set : NamespaceSet} (accepted : process.unshare set = .ok next) :
    next = { process with unshared := process.unshared ∪ set } := by
  unfold unshare require at accepted
  split at accepted
  case isTrue => cases accepted; rfl
  case isFalse => cases accepted

theorem isolateFilesystem_ok (accepted : process.isolateFilesystem = .ok next) :
    next = { process with filesystemVisible := false } := by
  unfold isolateFilesystem require at accepted
  split at accepted
  case isTrue =>
    cases mounts : process.unshared.mount with
    | true =>
        simp only [mounts, ↓reduceIte] at accepted
        cases accepted
        rfl
    | false =>
        simp only [mounts, Bool.false_eq_true, ↓reduceIte] at accepted
        cases accepted
  case isFalse => cases accepted

/-- A capability that is lacking is told as a lack of permission. -/
theorem require_error {operation : Operation} {capability : Capability} {failure : Failure}
    (refused : process.require operation capability = .error failure) :
    failure.errno? = some .eperm := by
  unfold require at refused
  split at refused
  case isTrue => cases refused
  case isFalse => cases refused; rfl

/-- Where namespaces cannot be left behind, an error number tells why. -/
theorem unshare_error {set : NamespaceSet} {failure : Failure}
    (refused : process.unshare set = .error failure) : ∃ errno, failure.errno? = some errno := by
  unfold unshare at refused
  cases required : process.require .unshare .sysAdmin with
  | ok value =>
      rw [required] at refused
      cases refused
  | error other =>
      rw [required] at refused
      cases refused
      exact ⟨_, require_error required⟩

/-- Where the filesystem cannot be left behind, an error number tells why. -/
theorem isolateFilesystem_error {failure : Failure}
    (refused : process.isolateFilesystem = .error failure) :
    ∃ errno, failure.errno? = some errno := by
  unfold isolateFilesystem at refused
  cases required : process.require .isolateFilesystem .sysAdmin with
  | ok value =>
      rw [required] at refused
      cases mounts : process.unshared.mount with
      | true =>
          rw [mounts] at refused
          cases refused
      | false =>
          rw [mounts] at refused
          cases refused
          exact ⟨.einval, rfl⟩
  | error other =>
      rw [required] at refused
      cases refused
      exact ⟨_, require_error required⟩

theorem installFilter_ok {filter : Filter} (accepted : process.installFilter filter = .ok next) :
    next = { process with filter := some filter.profile } := by
  unfold installFilter at accepted
  split at accepted
  · cases accepted; rfl
  · cases accepted

/-- The filter of a mode is never refused for what it holds. -/
theorem installFilter_ofMode (operating : OperatingMode) (process : SimulatedProcess) :
    process.installFilter (.ofMode operating) =
      .ok { process with filter := some (Filter.ofMode operating).profile } := by
  obtain ⟨program, compiled⟩ := Filter.compile_ofProfile (.ofMode operating.mode)
  unfold installFilter Filter.ofMode
  rw [compiled]

end SelfIsolation.SimulatedProcess
