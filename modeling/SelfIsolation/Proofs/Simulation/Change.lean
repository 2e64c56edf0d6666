import SelfIsolation.Proofs.Capability.Inclusion
import SelfIsolation.Proofs.Simulation.Replay
import SelfIsolation.Proofs.Simulation.Rule

/-! # How a process may change

A call that is accepted changes one part of the process, as far as the process is
entitled to (`SelfIsolation.SimulatedProcess.Change`), or it lets the process enter a
user namespace (`SelfIsolation.SimulatedProcess.Entry`). Neither gives back what was
given up for good (`SelfIsolation.SimulatedProcess.Narrowed`); capabilities are given
back only by entering a user namespace (`SelfIsolation.SimulatedProcess.CapsNarrowed`).
-/

namespace SelfIsolation

/-- Holds of the calls that enter a user namespace. -/
def SimulatedCall.entersUserNamespace : SimulatedCall → Bool
  | .joinUserNamespace _ | .createUserNamespace _ _ => true
  | _ => false

namespace SimulatedProcess

/-- A change of one part of a process, with what entitles the process to it. -/
inductive Change (process : SimulatedProcess) : SimulatedProcess → Prop
  | nothing : Change process process
  | caps (sets : ProcessCaps) (permitted : sets.permitted ⊆ process.caps.permitted)
      (effective : sets.effective ⊆ sets.permitted)
      (inheritable : sets.inheritable ⊆ process.inheritableLimit) :
      Change process { process with caps := sets }
  | bounding (capability : Capability) :
      Change process { process with bounding := process.bounding.erase capability }
  | descriptors (keep : Option Int32) : Change process (process.closeDescriptors keep)
  | groups (entitled : process.has .setgid = true) : Change process { process with groups := [] }
  | gid (gid : UInt32) (entitled : gid = process.gid ∨ process.has .setgid = true) :
      Change process { process with gid }
  | uid (uid : UInt32) (entitled : uid = process.uid ∨ process.has .setuid = true) :
      Change process { process with caps := process.capsAs uid, uid, effectiveUid := uid }
  | namespaces (set : NamespaceSet) :
      Change process { process with unshared := process.unshared ∪ set }
  | filesystem : Change process { process with filesystemVisible := false }
  | dumps : Change process process.disableCoreDumps
  | filter (profile : FilterProfile) : Change process { process with filter := some profile }

/-- Entry into a user namespace. -/
inductive Entry (process : SimulatedProcess) : SimulatedProcess → Prop
  | joined (path : String) : Entry process (process.joinUserNamespace path)
  | created : Entry process process.createUserNamespace

theorem ok_of_mapError {ε ε' α : Type} {translate : ε → ε'} {result : Except ε α} {value : α}
    (ended : result.mapError translate = .ok value) : result = .ok value := by
  cases result with
  | ok found =>
      cases ended
      rfl
  | error e => cases ended

variable {process next : SimulatedProcess}

/-- Installing a filter is one of the changes. -/
theorem installFilter_changes {filter : Filter}
    (accepted : process.installFilter filter = .ok next) : process.Change next := by
  cases installFilter_ok accepted
  exact .filter _

/-- An accepted call changes the process as far as it is entitled to, or enters a user namespace. -/
theorem answer_changes {call : SimulatedCall} (accepted : process.answer call = .ok next) :
    process.Change next ∨ (call.entersUserNamespace = true ∧ process.Entry next) := by
  cases call with
  | joinUserNamespace path =>
      cases accepted
      exact .inr ⟨rfl, .joined path⟩
  | createUserNamespace uid gid =>
      cases accepted
      exact .inr ⟨rfl, .created⟩
  | readCaps =>
      cases accepted
      exact .inl .nothing
  | writeCaps sets =>
      have written := ok_of_mapError accepted
      obtain ⟨effective, rfl⟩ := writeCaps_ok written
      obtain ⟨permitted, inheritable⟩ := writeCaps_allowed written
      exact .inl (.caps sets permitted effective inheritable)
  | dropBounding bit =>
      obtain ⟨capability, _, rfl⟩ := dropBounding_ok (ok_of_mapError accepted)
      exact .inl (.bounding capability)
  | closeDescriptors keep =>
      cases accepted
      exact .inl (.descriptors keep)
  | clearGroups =>
      have cleared := ok_of_mapError accepted
      cases clearGroups_ok cleared
      exact .inl (.groups (clearGroups_entitled cleared))
  | setGid gid =>
      have taken := ok_of_mapError accepted
      cases setGid_ok taken
      exact .inl (.gid gid (setGid_entitled taken))
  | setUid uid =>
      have taken := ok_of_mapError accepted
      cases setUid_ok taken
      exact .inl (.uid uid (setUid_entitled taken))
  | unshare set =>
      cases unshare_ok (ok_of_mapError accepted)
      exact .inl (.namespaces set)
  | isolateFilesystem root =>
      cases isolateFilesystem_ok (ok_of_mapError accepted)
      exact .inl .filesystem
  | disableCoreDumps =>
      cases accepted
      exact .inl .dumps
  | installFilter profile => exact .inl (installFilter_changes (ok_of_mapError accepted))

/-! ## What is given up for good -/

/-- Nothing that a process gave up for good has come back since. -/
structure Narrowed (since now : SimulatedProcess) : Prop where
  bounding : now.bounding ⊆ since.bounding
  descriptors : ∀ descriptor ∈ now.descriptors, descriptor ∈ since.descriptors
  groups : now.groups = since.groups ∨ now.groups = []
  namespaces : ∀ kind, since.unshared.contains kind = true → now.unshared.contains kind = true
  filesystem : since.filesystemVisible = false → now.filesystemVisible = false
  dumps : since.dumpable = false → now.dumpable = false
  filter : since.filter.isSome = true → now.filter.isSome = true

namespace Narrowed

variable {first : SimulatedProcess}

theorem refl (process : SimulatedProcess) : process.Narrowed process where
  bounding := CapSet.subset_refl _
  descriptors := fun _ member => member
  groups := .inl rfl
  namespaces := fun _ member => member
  filesystem := id
  dumps := id
  filter := id

theorem trans (earlier : first.Narrowed process) (later : process.Narrowed next) :
    first.Narrowed next where
  bounding := CapSet.subset_trans later.bounding earlier.bounding
  descriptors := fun _ member => earlier.descriptors _ (later.descriptors _ member)
  groups := by
    rcases later.groups with same | cleared
    · rw [same]
      exact earlier.groups
    · exact .inr cleared
  namespaces := fun _ member => later.namespaces _ (earlier.namespaces _ member)
  filesystem := fun hidden => later.filesystem (earlier.filesystem hidden)
  dumps := fun off => later.dumps (earlier.dumps off)
  filter := fun installed => later.filter (earlier.filter installed)

end Narrowed

/-- A change narrows the process. -/
theorem Change.narrowed (change : process.Change next) : process.Narrowed next := by
  have same := Narrowed.refl process
  cases change with
  | nothing => exact same
  | caps sets => exact { same with }
  | bounding capability => exact { same with bounding := CapSet.eraseBit_subset _ _ }
  | descriptors keep =>
      exact { same with descriptors := fun _ member => (List.mem_filter.mp member).1 }
  | groups => exact { same with groups := .inr rfl }
  | gid => exact { same with }
  | uid => exact { same with }
  | namespaces set =>
      refine { same with namespaces := fun kind member => ?_ }
      cases kind <;> exact Bool.or_eq_true_iff.mpr (.inl member)
  | filesystem => exact { same with filesystem := fun _ => rfl }
  | dumps => exact { same with dumps := fun _ => rfl }
  | filter => exact { same with filter := fun _ => rfl }

/-- An entry into a user namespace narrows the process but for its capabilities. -/
theorem Entry.narrowed (entry : process.Entry next) : process.Narrowed next := by
  have same := Narrowed.refl process
  cases entry with
  | joined path => exact { same with }
  | created => exact { same with }

/-! ## Capabilities -/

/-- What may be used is part of what may be taken into use. -/
def Within (process : SimulatedProcess) : Prop := process.caps.effective ⊆ process.caps.permitted

instance (process : SimulatedProcess) : Decidable process.Within :=
  inferInstanceAs (Decidable (process.caps.effective ⊆ process.caps.permitted))

/-- A change leaves the effective set permitted. -/
theorem Change.within (change : process.Change next) (within : process.Within) : next.Within := by
  cases change with
  | caps sets permitted effective => exact effective
  | uid uid =>
      change (process.capsAs uid).effective ⊆ (process.capsAs uid).permitted
      unfold capsAs
      split
      · exact CapSet.inter_subset_inter within ∅
      · exact within
  | _ => exact within

/-- An entry into a user namespace leaves the effective set permitted. -/
theorem Entry.within (entry : process.Entry next) : next.Within := by
  cases entry with
  | joined path => exact CapSet.subset_refl _
  | created => exact CapSet.subset_refl _

/-- Since then, nothing was added to what may be taken into use, and nothing is handed on that was
neither handed on nor could have been. -/
structure CapsNarrowed (since now : SimulatedProcess) : Prop where
  permitted : now.caps.permitted ⊆ since.caps.permitted
  inheritable : now.caps.inheritable ⊆
    since.caps.inheritable ∪ (since.caps.permitted ∩ since.bounding)

namespace CapsNarrowed

variable {first : SimulatedProcess}

theorem refl (process : SimulatedProcess) : process.CapsNarrowed process where
  permitted := CapSet.subset_refl _
  inheritable := CapSet.subset_union_left _ _

/-- The limit on what is handed on falls along with the sets that it is made of. -/
theorem trans (earlier : first.CapsNarrowed process) (bounding : process.bounding ⊆ first.bounding)
    (later : process.CapsNarrowed next) : first.CapsNarrowed next where
  permitted := CapSet.subset_trans later.permitted earlier.permitted
  inheritable := by
    have limited : process.caps.permitted ∩ process.bounding ⊆
        first.caps.permitted ∩ first.bounding :=
      CapSet.subset_inter
        (CapSet.subset_trans (CapSet.inter_subset_left _ _) earlier.permitted)
        (CapSet.subset_trans (CapSet.inter_subset_right _ _) bounding)
    refine CapSet.subset_trans later.inheritable (CapSet.union_subset earlier.inheritable ?_)
    exact CapSet.subset_trans limited (CapSet.subset_union_right _ _)

end CapsNarrowed

/-- A change that is no entry into a user namespace narrows the capability sets. -/
theorem Change.capsNarrowed (change : process.Change next) : process.CapsNarrowed next := by
  have same := CapsNarrowed.refl process
  cases change with
  | caps sets permitted effective inheritable => exact ⟨permitted, inheritable⟩
  | uid uid =>
      change process.CapsNarrowed
        { process with caps := process.capsAs uid, uid, effectiveUid := uid }
      unfold capsAs
      split
      · exact { same with permitted := CapSet.inter_subset_left _ _ }
      · exact { same with }
  | _ => exact { same with }

/-! ## Identity -/

/-- The process acts under the identity that it has. -/
def ActsAsItself (process : SimulatedProcess) : Prop := process.effectiveUid = process.uid

/-- A process that acts as itself does so after a change. -/
theorem Change.actsAsItself (change : process.Change next) (acts : process.ActsAsItself) :
    next.ActsAsItself := by
  cases change with
  | uid uid => exact rfl
  | _ => exact acts

/-- A process that acts as itself does so after an entry into a user namespace. -/
theorem Entry.actsAsItself (entry : process.Entry next) (acts : process.ActsAsItself) :
    next.ActsAsItself := by
  cases entry with
  | joined path => exact acts
  | created => exact rfl

end SimulatedProcess

end SelfIsolation
