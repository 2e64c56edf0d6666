import SelfIsolation.Lifecycle.Steps
import SelfIsolation.Proofs.Lifecycle.Accounting
import SelfIsolation.Proofs.Lifecycle.Narrowing

/-! # From stage to stage

Each stage is a standing: the record accounts for the process, and what the steps so
far gave up stays given up (`SelfIsolation.Standing.At`). Each of the four steps
leads from the standing of its stage to the standing of the next one, and where it
fails, back to where it started: `SelfIsolation.Isolating.initial_leads`,
`SelfIsolation.Isolating.user_leads`, `SelfIsolation.Isolating.prefork_leads` and
`SelfIsolation.Isolating.postfork_leads`.
-/

namespace SelfIsolation

/-- What is kept up at a stage, next to a record that accounts for the process. -/
structure Standing.At (stage : Stage) (start : SimulatedProcess) (kept : Standing)
    (record : PrivilegeRecord) (process : SimulatedProcess) : Prop where
  stage : record.stage = stage
  accounts : record.Accounts start process
  kept : kept record process

/-- Only the standard streams and the designated descriptor are open. -/
def Swept : Standing := fun record process =>
  ∀ descriptor ∈ process.descriptors,
    descriptor ≤ Descriptor.standardError ∨ record.designated = some descriptor

/-- The capabilities are known exactly, and nothing is left to hand on. -/
structure Stripped (record : PrivilegeRecord) (process : SimulatedProcess) : Prop where
  swept : Swept record process
  caps : record.caps = some process.caps
  bounding : record.bounding = some process.bounding
  inheritable : process.caps.inheritable = ∅

/-- Namespaces and the filesystem are left behind. -/
structure Secluded (context : IsolationContext) (record : PrivilegeRecord)
    (process : SimulatedProcess) : Prop extends Stripped record process where
  namespaces : record.namespaces = context.preforkNamespaces
  filesystem : record.filesystemVisible = false

/-- The capabilities are down to those that are needed at run time. -/
structure Confined (context : IsolationContext) (record : PrivilegeRecord)
    (process : SimulatedProcess) : Prop extends Secluded context record process where
  effective : process.caps.effective ⊆ process.caps.permitted
  permitted : process.caps.permitted ⊆ Policy.runtimeKeep context.operating

/-- Dumps are off and the filter is the one of the last context. -/
structure Sealed (confining sealing : IsolationContext) (record : PrivilegeRecord)
    (process : SimulatedProcess) : Prop extends Confined confining record process where
  dumpable : record.dumpable = false
  filter : record.filter = some (Filter.ofMode sealing.operating).profile

/-- A sweep is recorded with the descriptor that it spared. -/
theorem Swept.closeDescriptors (record : PrivilegeRecord) (process : SimulatedProcess)
    (keep : Option Int32) :
    Swept { record with designated := keep } (process.closeDescriptors keep) := by
  intro descriptor member
  have spared := (List.mem_filter.mp member).2
  by_cases standard : descriptor ≤ Descriptor.standardError
  · exact .inl standard
  · have above : Descriptor.standardError < descriptor := Int32.not_le.mp standard
    simp only [Descriptor.isSwept, above, decide_true, Bool.true_and, ne_eq, decide_not,
      Bool.not_not, decide_eq_true_eq] at spared
    exact .inr spared.symm

namespace Isolating

open Standing

variable {before stuck : Standing} {stage : Stage} {start : SimulatedProcess} {kept : Standing}

section Protocol

variable {κ : Type} {expected : Stage} {session : Session κ}

theorem requireStage_eq (step : String) (session : Session κ) :
    requireStage expected step session =
      if session.privileges.stage ≠ expected then
        .error (.violated (.outOfOrder step session.privileges.stage expected)) session
      else .ok () session := by
  change (if session.privileges.stage ≠ expected then
    throw (.violated (.outOfOrder step session.privileges.stage expected)) else pure () :
    Isolating κ Unit) session = _
  split
  · rfl
  · rfl

theorem requireStage_ok (step : String) (reached : session.privileges.stage = expected) :
    requireStage expected step session = .ok () session := by
  rw [requireStage_eq, if_neg (not_not_intro reached)]

theorem requireStage_violated (step : String) (elsewhere : session.privileges.stage ≠ expected) :
    requireStage expected step session =
      .error (.violated (.outOfOrder step session.privileges.stage expected)) session := by
  rw [requireStage_eq, if_pos elsewhere]

end Protocol

/-- At its stage a step goes on. -/
theorem requireStage_leads (step : String) :
    Leads (At stage start kept) (requireStage stage step) (fun _ => At stage start kept) stuck := by
  intro session standing
  rw [requireStage_ok step standing.stage]
  exact standing

/-- Completing a step only changes the stage. -/
theorem finish_leads {next : Stage} {kept' : Standing} (follows : stage.next? = some next)
    (same : ∀ record process, kept record process →
      kept' { record with stage := next } process) :
    Leads (At stage start kept) finish (fun _ => At next start kept') stuck := by
  unfold finish
  refine Leads.bind (fun _ => At next start kept') (Leads.recordingChecked ?_) fun _ =>
    Leads.reading fun session => Leads.note _ _ fun _ _ holds => holds
  intro record process standing
  have kept := same _ _ standing.kept
  refine ⟨{ record with stage := next }, ?_, rfl, { standing.accounts with }, kept⟩
  unfold PrivilegeRecord.advance
  simp only [standing.stage, follows]

/-- **Initial step.** The descriptors are swept. -/
theorem initial_leads (arguments : List String) :
    Leads (At .startup start fun _ _ => True) (initial arguments)
      (fun _ => At .initial start Swept) (At .startup start fun _ _ => True) := by
  have unswept : ∀ record process, At .startup start Swept record process →
      At .startup start (fun _ _ => True) record process := fun _ _ standing =>
    { standing with kept := trivial }
  unfold initial
  refine Leads.bind _ (requireStage_leads _) fun _ => ?_
  cases named : Descriptor.designated arguments with
  | error reason => exact Leads.fail _ fun _ _ standing => standing
  | ok keep =>
      refine Leads.givingUp (At .startup start Swept)
        (fun process => process.closeDescriptors keep) (fun _ _ standing => standing) ?_ ?_ ?_
      · intro process next accepted
        cases accepted
        rfl
      · intro record process standing
        exact ⟨standing.stage, { standing.accounts with }, Swept.closeDescriptors _ _ keep⟩
      refine Leads.reading fun session => Leads.bind (fun _ => At .startup start Swept)
        (Leads.observe fun _ _ standing => standing) fun inInitial => ?_
      refine Leads.bind (fun _ => At .startup start Swept)
        (restrictCaps_leads _ (fun _ _ standing => standing.accounts.caps) unswept ?_) fun _ =>
          finish_leads rfl fun _ _ swept => swept
      intro record process standing within
      exact ⟨standing.stage, standing.accounts.withCaps _, standing.kept⟩

/-- The groups are gone where dropping them took effect. -/
def Dismissed (groups : Outcome) : Standing := fun record process =>
  Swept record process ∧ (groups.isApplied = true → process.groups = [])

/-- Taking on an identity keeps what was kept. -/
theorem switchIdentity_leads (target : UserTarget) :
    Leads (At stage start Swept) (switchIdentity target) (fun _ => At stage start Swept)
      (At stage start Swept) := by
  have undismissed : ∀ groups record process, At stage start (Dismissed groups) record process →
      At stage start Swept record process := fun _ _ _ standing =>
    { standing with kept := standing.kept.1 }
  unfold switchIdentity
  -- The outcome is recorded only after both identities changed, and has to stay true until then.
  refine Leads.bind (fun groups => At stage start (Dismissed groups))
    (Leads.tolerate (fun _ _ standing => standing) ?_ ?_) fun groups => ?_
  · intro record process next standing accepted
    cases SimulatedProcess.clearGroups_ok accepted
    exact ⟨standing.stage, standing.accounts.clearGroups, standing.kept, fun _ => rfl⟩
  · exact fun _ _ _ standing =>
      ⟨standing.stage, standing.accounts, standing.kept, fun applied => by cases applied⟩
  refine Leads.bind (fun _ => At stage start (Dismissed groups)) (Leads.notes _) fun _ => ?_
  refine Leads.bind (fun _ => At stage start (Dismissed groups))
    (Leads.attempt (undismissed _) ?_) fun _ => ?_
  · intro record process next standing accepted
    cases SimulatedProcess.setGid_ok accepted
    exact ⟨standing.stage, { standing.accounts with }, standing.kept⟩
  refine Leads.bind (fun _ => At stage start (Dismissed groups))
    (Leads.attempt (undismissed _) ?_) fun _ => ?_
  · intro record process next standing accepted
    cases SimulatedProcess.setUid_ok accepted
    exact ⟨standing.stage, standing.accounts.setUid _, standing.kept⟩
  refine Leads.bind (fun _ => At stage start Swept) (Leads.recording ?_) fun _ =>
    Leads.note _ _ fun _ _ standing => standing
  intro record process standing
  obtain ⟨reached, accounts, swept, cleared⟩ := standing
  exact ⟨reached, accounts.withIdentity _ _ cleared, swept⟩

/-- Entering a user namespace keeps what was kept. -/
theorem enterUserNamespace_leads (target : UserTarget) :
    Leads (At stage start Swept) (enterUserNamespace target) (fun _ => At stage start Swept)
      (At stage start Swept) := by
  unfold enterUserNamespace
  cases target.userNamespace with
  | some path =>
      refine Leads.givesUp (fun process => process.joinUserNamespace path)
        (fun _ _ standing => standing) ?_ ?_
      · intro process next accepted
        cases accepted
        rfl
      · intro record process standing
        have accounts := standing.accounts.withUserNamespace (.joined path)
        exact ⟨standing.stage, accounts, standing.kept⟩
  | none =>
      by_cases wanted : target.useUserNamespace = true
      · simp only [wanted, ↓reduceIte]
        refine Leads.givesUp SimulatedProcess.createUserNamespace
          (fun _ _ standing => standing) ?_ ?_
        · intro process next accepted
          cases accepted
          rfl
        · intro record process standing
          have accounts := standing.accounts.withUserNamespace .created
          exact ⟨standing.stage, { accounts with }, standing.kept⟩
      · simp only [wanted, Bool.false_eq_true, ↓reduceIte]
        exact Leads.pure _ fun _ _ standing => standing

/-- **User step.** The capabilities are known and none is left to hand on. -/
theorem user_leads (target : UserTarget) :
    Leads (At .initial start Swept) (user target) (fun _ => At .userSwitched start Stripped)
      (At .initial start Swept) := by
  unfold user
  refine Leads.bind _ (requireStage_leads _) fun _ => ?_
  refine Leads.bind _ (switchIdentity_leads target) fun _ => ?_
  refine Leads.bind _ (enterUserNamespace_leads target) fun _ => ?_
  refine Leads.bind (fun _ => At .initial start Stripped) (clampCaps_leads _ ?_ ?_ ?_ ?_)
    fun _ => finish_leads rfl fun _ _ stripped => { stripped with }
  · exact fun _ _ standing => standing.accounts.caps
  · exact fun _ _ standing => standing.accounts.bounding
  -- Where clamping stops, the record may still hold the set from before the bits were dropped.
  · intro record process standing recorded set within included
    have narrowed := (standing.accounts.dropBounding included).withBounding (CapSet.subset_refl _)
    exact ⟨standing.stage, narrowed.dropBounding within, standing.kept⟩
  · intro record process standing set within
    have narrowed := (standing.accounts.dropBounding within).withBounding (CapSet.subset_refl _)
    exact ⟨standing.stage, narrowed.withCaps _, standing.kept, rfl, rfl, rfl⟩

/-- **Prefork step.** Namespaces and the filesystem are left behind, and few capabilities are
kept. -/
theorem prefork_leads (context : IsolationContext) :
    Leads (At .userSwitched start Stripped) (prefork context)
      (fun _ => At .preforkIsolated start (Confined context))
      (At .userSwitched start Stripped) := by
  unfold prefork
  refine Leads.bind _ (requireStage_leads _) fun _ => ?_
  refine Leads.givingUp
    (fun record process => At .userSwitched start Stripped record process ∧
      record.namespaces = context.preforkNamespaces)
    (fun process => { process with unshared := process.unshared ∪ context.preforkNamespaces })
    (fun _ _ standing => standing) (fun _ _ => SimulatedProcess.unshare_ok) ?_ ?_
  · intro record process standing
    have accounts := standing.accounts.withNamespaces context.preforkNamespaces
    exact ⟨⟨standing.stage, accounts, { standing.kept with }⟩, rfl⟩
  refine Leads.givingUp (At .userSwitched start (Secluded context))
    (fun process => { process with filesystemVisible := false })
    (fun _ _ standing => standing.1) (fun _ _ => SimulatedProcess.isolateFilesystem_ok) ?_ ?_
  · intro record process standing
    obtain ⟨standing, namespaces⟩ := standing
    exact ⟨standing.stage, standing.accounts.hideFilesystem,
      { standing.kept with namespaces, filesystem := rfl }⟩
  refine Leads.bind (fun _ => At .userSwitched start (Confined context))
    (restrictCaps_leads _ (fun _ _ standing => standing.accounts.caps) ?_ ?_) fun _ =>
      finish_leads rfl fun _ _ confined => { confined with }
  · intro record process standing
    exact { standing with kept := standing.kept.toStripped }
  · intro record process standing within
    exact ⟨standing.stage, standing.accounts.withCaps _, {
      standing.kept with
      caps := rfl
      effective := within
      permitted := CapSet.inter_subset_right _ _ }⟩

/-- **Postfork step.** Dumps are off and the filter is installed. -/
theorem postfork_leads (confining sealing : IsolationContext) :
    Leads (At .preforkIsolated start (Confined confining)) (postfork sealing)
      (fun _ => At .postforkIsolated start (Sealed confining sealing))
      (At .preforkIsolated start (Confined confining)) := by
  unfold postfork
  refine Leads.bind _ (requireStage_leads _) fun _ => ?_
  refine Leads.givingUp
    (fun record process => At .preforkIsolated start (Confined confining) record process ∧
      record.dumpable = false)
    SimulatedProcess.disableCoreDumps (fun _ _ standing => standing) ?_ ?_ ?_
  · intro process next accepted
    cases accepted
    rfl
  · intro record process standing
    exact ⟨⟨standing.stage, standing.accounts.forbidDumps, { standing.kept with }⟩, rfl⟩
  refine Leads.givingUp (At .preforkIsolated start (Sealed confining sealing))
    (fun process => { process with filter := some (Filter.ofMode sealing.operating).profile })
    (fun _ _ standing => standing.1) (fun _ _ => SimulatedProcess.installFilter_ok) ?_ ?_
  · intro record process standing
    obtain ⟨standing, dumpable⟩ := standing
    exact ⟨standing.stage, standing.accounts.withFilter _,
      { standing.kept with dumpable, filter := rfl }⟩
  exact finish_leads rfl fun _ _ held => { held with }

/-- Finishing a step leads from one stage to the next. -/
theorem finish_completes {κ : Type} {next : Stage} (follows : stage.next? = some next) :
    Triple (fun session : Session κ => session.privileges.stage = stage) finish
      (fun _ session => session.privileges.stage = next) fun _ _ => False := by
  unfold finish
  refine Triple.bind (fun _ session => session.privileges.stage = next)
    (Triple.recordingChecked ?_ ?_) fun _ => ?_
  · intro session privileges reached advanced
    unfold PrivilegeRecord.advance at advanced
    rw [reached, follows] at advanced
    cases advanced
    rfl
  · intro session violation reached refused
    unfold PrivilegeRecord.advance at refused
    rw [reached, follows] at refused
    cases refused
  · exact Triple.bind (fun _ session => session.privileges.stage = next)
      (Triple.get fun _ reached => reached) fun _ => Triple.note _ _ fun _ reached => reached

/-- Nothing but a failure that is asked for keeps the postfork step from completing. -/
theorem postfork_completes (context : IsolationContext) :
    Triple (fun session : Session SimulatedKernel => session.privileges.stage = .preforkIsolated ∧
        session.kernel.failure .disableCoreDumps = none ∧
        session.kernel.failure .installFilter = none)
      (postfork context) (fun _ session => session.privileges.stage = .postforkIsolated)
      fun _ _ => False := by
  unfold postfork
  refine Triple.bind (fun _ session => session.privileges.stage = .preforkIsolated ∧
    session.kernel.failure .disableCoreDumps = none ∧
    session.kernel.failure .installFilter = none) ?_ fun _ => ?_
  · intro session ready
    rw [requireStage_ok _ ready.1]
    exact ready
  refine Triple.bind (fun _ session => session.privileges.stage = .preforkIsolated ∧
    session.kernel.failure .installFilter = none) (Triple.perform_accepted ?_ ?_) fun _ => ?_
  · exact fun _ ready => ready.2.1
  · exact fun _ ready => ⟨_, rfl, ready.1, ready.2.2⟩
  refine Triple.bind (fun _ session => session.privileges.stage = .preforkIsolated ∧
    session.kernel.failure .installFilter = none) (Triple.recording fun _ ready => ready)
    fun _ => ?_
  refine Triple.bind (fun _ session => session.privileges.stage = .preforkIsolated)
    (Triple.perform_accepted ?_ ?_) fun _ => ?_
  · exact fun _ ready => ready.2
  · exact fun session ready => ⟨_, SimulatedProcess.installFilter_ofMode _ _, ready.1⟩
  refine Triple.bind (fun _ session => session.privileges.stage = .preforkIsolated)
    (Triple.recording fun _ ready => ready) fun _ => ?_
  exact finish_completes rfl

end Isolating

end SelfIsolation
