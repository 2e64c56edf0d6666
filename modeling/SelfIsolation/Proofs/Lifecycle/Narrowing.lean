import SelfIsolation.Lifecycle.Narrowing
import SelfIsolation.Proofs.Capability.Inclusion
import SelfIsolation.Proofs.Simulation.Rule
import SelfIsolation.Proofs.Simulation.Standing

/-! # What narrowing leaves

Both narrowing steps change the capability sets of the process and then the record,
and nothing else. Where recorded sets cover those of the process they never break
the protocol: restricting writes both sets or neither
(`SelfIsolation.Isolating.restrictCaps_leads`), and emptying the bounding set may
stop between any two bits (`SelfIsolation.Isolating.clampCaps_leads`).
-/

namespace SelfIsolation

/-- A record and a process, with some of the bounding set dropped. -/
def Standing.dropping (record : PrivilegeRecord) (process : SimulatedProcess) : Standing :=
  fun record' process' => ∃ set, set ⊆ process.bounding ∧
    exactly record { process with bounding := set } record' process'

namespace Isolating

open Standing

variable {before stuck : Standing} {record : PrivilegeRecord} {process : SimulatedProcess}

/-- Capability sets that narrow those of the record are recorded. -/
theorem withCaps_ok {sets : ProcessCaps}
    (narrows : ∀ old, record.caps = some old → old.Narrows sets) :
    record.withCaps sets = .ok { record with caps := some sets } := by
  unfold PrivilegeRecord.withCaps
  cases recorded : record.caps with
  | none => rfl
  | some old => simp only [narrows old recorded, ↓reduceIte]

/-- A bounding set that narrows that of the record is recorded. -/
theorem withBounding_ok {set : CapSet}
    (narrows : ∀ old, record.bounding = some old → set ⊆ old) :
    record.withBounding set = .ok { record with bounding := some set } := by
  unfold PrivilegeRecord.withBounding
  cases recorded : record.bounding with
  | none => rfl
  | some old => simp only [narrows old recorded, ↓reduceIte]

/-- Reading tells the capability sets as they are. -/
theorem readExactly_leads (purpose : Attempt) :
    Leads (exactly record process) (attempt purpose Kernel.readCaps)
      (fun sets record' process' => sets = process.caps ∧ exactly record process record' process')
      (exactly record process) := by
  exact Leads.readCaps (fun _ _ same => same) (exactly_elim ⟨rfl, rfl, rfl⟩)

/-- Written sets are effective as far as they are permitted. -/
theorem writeExactly_leads (purpose : Attempt) (sets : ProcessCaps) :
    Leads (exactly record process) (attempt purpose (Kernel.writeCaps sets))
      (fun _ record' process' => sets.effective ⊆ sets.permitted ∧
        exactly record { process with caps := sets } record' process')
      (exactly record process) := by
  refine Leads.attempt (fun _ _ same => same) ?_
  intro record' process' next same accepted
  obtain ⟨rfl, rfl⟩ := same
  obtain ⟨within, rfl⟩ := SimulatedProcess.writeCaps_ok accepted
  exact ⟨within, rfl, rfl⟩

/-- Both narrowing steps read the capability sets and write changed ones. -/
theorem replaceCaps_leads {after : Unit → Standing} (change : ProcessCaps → ProcessCaps)
    (reading writing : Attempt) (next : ProcessCaps → Isolating SimulatedKernel Unit)
    (refused : stuck record process)
    (written : (change process.caps).effective ⊆ (change process.caps).permitted →
      Leads (exactly record { process with caps := change process.caps }) (next process.caps)
        after stuck) :
    Leads (exactly record process) (do
      let sets ← attempt reading Kernel.readCaps
      attempt writing (Kernel.writeCaps (change sets))
      next sets) after stuck := by
  refine Leads.bind _ ((readExactly_leads reading).stopping (exactly_elim refused)) fun sets => ?_
  refine Leads.each fun record' process' read => ?_
  obtain ⟨rfl, rfl, rfl⟩ := read
  refine Leads.bind _ ((writeExactly_leads writing _).stopping (exactly_elim refused)) fun _ => ?_
  refine Leads.each fun record' process' wrote => ?_
  obtain ⟨within, rfl, rfl⟩ := wrote
  exact written within

/-- Restricting leaves exactly what is kept, in the process and in the record. -/
theorem restrictCaps_leads {after : Unit → Standing} (keep : CapSet)
    (covered : ∀ record process, before record process → ∀ sets, record.caps = some sets →
      sets.Covers process.caps)
    (refused : ∀ record process, before record process → stuck record process)
    (restricted : ∀ record process, before record process →
      process.caps.effective ∩ keep ⊆ process.caps.permitted ∩ keep →
      after () { record with caps := some (process.caps.restrict keep) }
        { process with caps := process.caps.restrict keep }) :
    Leads before (restrictCaps keep) after stuck := by
  refine Leads.each fun record process start => ?_
  refine replaceCaps_leads (fun sets => sets.restrict keep) _ _ _ (refused _ _ start)
    fun within => Leads.noting (Leads.recordingChecked ?_)
  intro record' process' wrote
  obtain ⟨rfl, rfl⟩ := wrote
  have narrows : ∀ old, record'.caps = some old → old.Narrows (process.caps.restrict keep) :=
    fun old recorded => (covered _ _ start old recorded).narrows_restrict keep
  exact ⟨_, withCaps_ok narrows, restricted _ _ start within⟩

/-- Nothing is left to hand on, in the process and in the record. -/
theorem clearInheritable_leads {after : Unit → Standing}
    (covered : ∀ record process, before record process → ∀ sets, record.caps = some sets →
      sets.Covers process.caps)
    (refused : ∀ record process, before record process → stuck record process)
    (cleared : ∀ record process, before record process →
      after () { record with caps := some process.caps.clearInheritable }
        { process with caps := process.caps.clearInheritable }) :
    Leads before clearInheritable after stuck := by
  refine Leads.each fun record process start => ?_
  refine replaceCaps_leads ProcessCaps.clearInheritable _ _ _ (refused _ _ start)
    fun _ => Leads.recordingChecked ?_
  intro record' process' wrote
  obtain ⟨rfl, rfl⟩ := wrote
  have narrows : ∀ old, record'.caps = some old → old.Narrows process.caps.clearInheritable :=
    fun old recorded => (covered _ _ start old recorded).narrows_clearInheritable
  exact ⟨_, withCaps_ok narrows, cleared _ _ start⟩

/-- **Step.** Dropping a bit leaves a bounding set that is no larger. -/
theorem dropBoundingBit_leads (tolerance : Tolerance) (refused bit : Nat) :
    Leads (dropping record process) (dropBoundingBit tolerance refused bit)
      (fun _ => dropping record process) (dropping record process) := by
  unfold dropBoundingBit
  refine Leads.bind (fun _ => dropping record process)
    (Leads.tolerate (fun _ _ holds => holds) ?_ fun _ _ _ holds => holds) fun outcome => ?_
  · intro record' process' next left accepted
    obtain ⟨set, within, rfl, rfl⟩ := left
    obtain ⟨capability, _, rfl⟩ := SimulatedProcess.dropBounding_ok accepted
    exact ⟨set.erase capability, CapSet.subset_trans (CapSet.eraseBit_subset _ _) within, rfl, rfl⟩
  · cases outcome with
    | applied => exact Leads.pure _ fun _ _ holds => holds
    | tolerated errno => exact Leads.pure _ fun _ _ holds => holds

/-- **Run.** Dropping all bits leaves a bounding set that is no larger. -/
theorem dropBoundingSet_leads (tolerance : Tolerance) :
    Leads (exactly record process) (dropBoundingSet tolerance)
      (fun _ => dropping record process) (dropping record process) := by
  refine Triple.weaken (Leads.foldlM _ (dropBoundingBit_leads tolerance) 0) ?_
    (fun _ _ holds => holds) fun _ _ holds => holds
  intro session same
  exact ⟨process.bounding, CapSet.subset_refl _, same⟩

/-- The record holds the bounding set as it is. -/
theorem recordBounding_leads (bounded : ∀ set, record.bounding = some set →
      process.bounding ⊆ set) :
    Leads (exactly record process) recordBounding
      (fun _ => exactly { record with bounding := some process.bounding } process) stuck := by
  unfold recordBounding
  refine Leads.bind
    (fun set record' process' => set = process.bounding ∧ exactly record process record' process')
    (Leads.observe (exactly_elim ⟨rfl, rfl, rfl⟩)) fun set => ?_
  refine Leads.bind
    (fun _ => exactly { record with bounding := some process.bounding } process)
    (Leads.recordingChecked ?_) fun _ => Leads.pure set fun _ _ same => same
  intro record' process' read
  obtain ⟨rfl, rfl, rfl⟩ := read
  exact ⟨_, withBounding_ok bounded, rfl, rfl⟩

/-- Once bits were dropped, the rest of clamping records what is left of the bounding set and
clears the inheritable set. -/
theorem recordDropped_leads {after : Unit → Standing}
    (covered : ∀ sets, record.caps = some sets → sets.Covers process.caps)
    (refused : ∀ recorded set, set ⊆ recorded → recorded ⊆ process.bounding →
      stuck { record with bounding := some recorded } { process with bounding := set })
    (clamped : ∀ set, set ⊆ process.bounding →
      after ()
        { record with bounding := some set, caps := some process.caps.clearInheritable }
        { process with bounding := set, caps := process.caps.clearInheritable }) :
    Leads (dropping { record with bounding := some process.bounding } process) (do
      let bounding ← observe Kernel.boundingSet
      note .debug s!"Bounding set now: {bounding}"
      recordingChecked fun privileges => privileges.withBounding bounding
      clearInheritable) after stuck := by
  refine Leads.each fun record' process' left => ?_
  obtain ⟨set, within, rfl, rfl⟩ := left
  refine Leads.bind
    (fun found record' process' => found = set ∧
      exactly { record with bounding := some process.bounding } { process with bounding := set }
        record' process')
    (Leads.observe (exactly_elim ⟨rfl, rfl, rfl⟩)) fun found => Leads.noting ?_
  refine Leads.bind
    (fun _ => exactly { record with bounding := some set } { process with bounding := set })
    (Leads.recordingChecked ?_) fun _ => ?_
  · intro record' process' seen
    obtain ⟨rfl, rfl, rfl⟩ := seen
    refine ⟨_, withBounding_ok ?_, rfl, rfl⟩
    intro old recorded
    cases recorded
    exact within
  · exact clearInheritable_leads (exactly_elim covered)
      (exactly_elim (refused set set (CapSet.subset_refl _) within))
      (exactly_elim (clamped set within))

/-- Clamping drops from the bounding set and clears the inheritable set. Where it stops, the record
holds a bounding set between the one left and the one that was there before. -/
theorem clampCaps_leads {after : Unit → Standing} (operating : OperatingMode)
    (covered : ∀ record process, before record process → ∀ sets, record.caps = some sets →
      sets.Covers process.caps)
    (bounded : ∀ record process, before record process → ∀ set, record.bounding = some set →
      process.bounding ⊆ set)
    (refused : ∀ record process, before record process → ∀ recorded set, set ⊆ recorded →
      recorded ⊆ process.bounding →
      stuck { record with bounding := some recorded } { process with bounding := set })
    (clamped : ∀ record process, before record process → ∀ set, set ⊆ process.bounding →
      after ()
        { record with bounding := some set, caps := some process.caps.clearInheritable }
        { process with bounding := set, caps := process.caps.clearInheritable }) :
    Leads before (clampCaps operating) after stuck := by
  refine Leads.each fun record process start => ?_
  have rest := recordDropped_leads (covered _ _ start) (refused _ _ start) (clamped _ _ start)
  unfold clampCaps
  refine Leads.bind _ (recordBounding_leads (bounded _ _ start)) fun _ => ?_
  refine Leads.bind _ ((dropBoundingSet_leads _).stopping ?_) fun refusals => ?_
  · intro record' process' left
    obtain ⟨set, within, rfl, rfl⟩ := left
    exact refused _ _ start _ _ within (CapSet.subset_refl _)
  -- Refusals are only reported, so both branches go on alike.
  · by_cases some_refused : 0 < refusals
    · simp only [some_refused, ↓reduceIte]
      exact Leads.noting rest
    · simp only [some_refused, ↓reduceIte]
      exact rest

end Isolating

end SelfIsolation
