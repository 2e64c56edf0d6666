import SelfIsolation.Control.Rehearsal
import SelfIsolation.Proofs.Lifecycle.Guarantee
import SelfIsolation.Proofs.Lifecycle.Settled
import SelfIsolation.Proofs.Text.Numeral

/-! # When a rehearsal succeeds

A rehearsal meets no failures but those of its simulated process, so each of its
steps ends as the replay of its script does. The initial step of a valid
configuration always completes; the user step fails where the process cannot take
on the identity of its target (`SelfIsolation.Rehearsal.rehearse_unsettled`), the
prefork step where it then may not leave namespaces behind
(`SelfIsolation.Rehearsal.rehearse_unentitled`), and nothing else fails
(`SelfIsolation.Rehearsal.rehearse_ok`). Both conditions come down to the real and
the effective identity (`SelfIsolation.Rehearsal.admits_iff`), which gives the exact
condition of success (`SelfIsolation.Rehearsal.rehearse_succeeds`).
-/

namespace SelfIsolation

/-- A descriptor is read back from its text. -/
theorem Descriptor.read_toString {descriptor : Int32} (natural : 0 ≤ descriptor) :
    Descriptor.read (toString descriptor) = .ok descriptor := by
  rw [Descriptor.read, Numeral.readInt32?_toString natural]
  exact if_pos natural

namespace Configuration

variable {configuration : Configuration}

/-- The descriptor of a valid configuration is no negative number. -/
theorem descriptor_natural (valid : configuration.validate = .ok ()) {descriptor : Int32}
    (designated : configuration.descriptor = some descriptor) : 0 ≤ descriptor := by
  by_contra negative
  have below : descriptor < 0 := Int32.not_le.mp negative
  rw [validate] at valid
  simp only [designated, below, ↓reduceIte] at valid
  split at valid
  · cases valid
  · cases valid

/-- A valid configuration designates its descriptor by arguments that can be read. -/
theorem designated_startupArguments (valid : configuration.validate = .ok ()) :
    Descriptor.designated configuration.startupArguments = .ok configuration.descriptor := by
  unfold startupArguments
  cases designated : configuration.descriptor with
  | none => rfl
  | some descriptor =>
      have form : Descriptor.form "--fd" = .separate := by rfl
      have read := Descriptor.read_toString (descriptor_natural valid designated)
      simp only [Descriptor.designated, Descriptor.scan, form, read]

end Configuration

namespace Rehearsal

/-! ## Steps that are shown -/

/-- Showing calls only adds to the output. -/
theorem showCalls (calls : List SimulatedCall) (rehearsal : Rehearsal) :
    ∃ output, (calls.forM fun call => printLine (callLine call.text)) rehearsal =
      .ok () { rehearsal with output } := by
  induction calls generalizing rehearsal with
  | nil => exact ⟨rehearsal.output, rfl⟩
  | cons call calls ih =>
      obtain ⟨output, shown⟩ := ih
        { rehearsal with output := rehearsal.output ++ callLine call.text ++ "\n" }
      exact ⟨output, shown⟩

/-- Showing the stage empties the journal and adds to the output. -/
theorem showStage_ok (rehearsal : Rehearsal) :
    ∃ output, showStage rehearsal =
      .ok () { rehearsal with kernel := { rehearsal.kernel with journal := [] }, output } := by
  obtain ⟨output, shown⟩ := showCalls rehearsal.kernel.journal
    { rehearsal with
      kernel := { rehearsal.kernel with journal := [] }
      output := rehearsal.output ++ s!"stage {rehearsal.privileges.stage}" ++ "\n" }
  exact ⟨output, shown⟩

/-- A rehearsal after completed steps, on a process that meets no failures but its own. -/
structure Stands (start : Session SimulatedKernel) (done : List IsolationStep)
    (process : SimulatedProcess) (rehearsal : Rehearsal) : Prop where
  attained : start.Attained rehearsal.toSession done
  process : rehearsal.kernel.process = process
  unhindered : rehearsal.kernel.Unhindered

section Shown

variable {start : Session SimulatedKernel} {done : List IsolationStep}
  {process next : SimulatedProcess} {rehearsal : Rehearsal} {step : IsolationStep}

/-- A step whose script is replayed well is shown and ends well. -/
theorem takeShown_ok (stands : Stands start done process rehearsal)
    (expected : step.stage.index = done.length)
    (readable : ∀ arguments reason, step = .initial arguments →
      Descriptor.designated arguments ≠ .error reason)
    (replayed : process.replay step.tolerated (step.script process) = .ok next) :
    ∃ later, takeShown step.take rehearsal = .ok () later ∧
      Stands start (done ++ [step]) next later := by
  have reached : rehearsal.privileges.stage = step.stage :=
    Stage.index_injective (stands.attained.index_eq.trans expected.symm)
  have settled := step.take_settled stands.attained reached stands.unhindered readable
  rw [stands.process, replayed] at settled
  obtain ⟨ended, process, unhindered, attained⟩ := settled
  have taken : takeStep step.take rehearsal =
      .ok () { rehearsal with toSession := step.take.reached rehearsal.toSession } := by
    rw [takeStep, Isolating.taken_of_ending_ok ended]
  obtain ⟨output, shown⟩ := showStage_ok
    { rehearsal with toSession := step.take.reached rehearsal.toSession }
  exact ⟨_, (bind_of_ok taken).trans shown, attained, process, unhindered⟩

/-- A step whose script is refused in replay fails with that refusal. -/
theorem takeShown_error {refusal : Option Errno} (stands : Stands start done process rehearsal)
    (expected : step.stage.index = done.length)
    (readable : ∀ arguments reason, step = .initial arguments →
      Descriptor.designated arguments ≠ .error reason)
    (replayed : process.replay step.tolerated (step.script process) = .error refusal) :
    ∃ failure later, takeShown step.take rehearsal = .error (.failed failure) later ∧
      failure.errno? = refusal := by
  have reached : rehearsal.privileges.stage = step.stage :=
    Stage.index_injective (stands.attained.index_eq.trans expected.symm)
  have settled := step.take_settled stands.attained reached stands.unhindered readable
  rw [stands.process, replayed] at settled
  obtain ⟨failure, ended, told⟩ := settled
  have taken : takeStep step.take rehearsal = .error (.failed failure)
      { rehearsal with toSession := step.take.reached rehearsal.toSession } := by
    rw [takeStep, Isolating.taken_of_ending_error ended]
  exact ⟨failure, _, bind_of_error taken, told⟩

end Shown

/-! ## The four steps -/

/-- The process that the user step of a rehearsal starts from. -/
def narrowed (configuration : Configuration) (process : SimulatedProcess) : SimulatedProcess :=
  { process.closeDescriptors configuration.descriptor with
    caps := process.caps.restrict
      (Policy.setupKeep process.effectiveUid process.inInitialUserNamespace) }

/-- The capability sets that the prefork step of a rehearsal starts from. -/
def settledCaps (target : UserTarget) (process : SimulatedProcess) : ProcessCaps :=
  (target.capsInside (process.capsAs target.uid)).clearInheritable

section Steps

variable {start : Session SimulatedKernel} {process : SimulatedProcess} {rehearsal : Rehearsal}
  {configuration : Configuration} {uid gid : UInt32}

/-- Showing the rest only adds to the output, the retained capabilities first. -/
theorem showRest_ok (rehearsal : Rehearsal) :
    ∃ rest, showRest rehearsal = .ok () { rehearsal with
      output := rehearsal.output ++
        s!"\nRetained capabilities: {rehearsal.privileges.retained}" ++ "\n" ++ rest } := by
  let visible := s!"Filesystem visible:    {rehearsal.privileges.filesystemVisible}"
  let dumps := s!"Core dumps:            {rehearsal.privileges.dumpable}"
  have joined : ∀ front : String, front ++ visible ++ "\n" ++ dumps ++ "\n" =
      front ++ (visible ++ "\n" ++ dumps ++ "\n") := by
    intro front
    simp only [String.append_assoc]
  refine ⟨visible ++ "\n" ++ dumps ++ "\n", ?_⟩
  rw [← joined]
  rfl

/-- A valid configuration cannot fail the initial step. -/
theorem initial_shown (valid : configuration.validate = .ok ())
    (within : process.caps.effective ⊆ process.caps.permitted)
    (stands : Stands start [] process rehearsal) :
    ∃ later, takeShown (Isolating.initial configuration.startupArguments) rehearsal =
        .ok () later ∧
      Stands start [.initial configuration.startupArguments] (narrowed configuration process)
        later := by
  have named := Configuration.designated_startupArguments valid
  refine takeShown_ok stands rfl ?_ (IsolationStep.replay_initial named within)
  intro arguments reason same unread
  cases same
  rw [named] at unread
  cases unread

/-- Up to the prefork step a rehearsal fails only where its target cannot be settled on. -/
theorem user_shown (valid : configuration.validate = .ok ())
    (within : process.caps.effective ⊆ process.caps.permitted)
    (stands : Stands start [] process rehearsal)
    (settles : (configuration.userTarget uid gid).SettlesOn (narrowed configuration process)) :
    ∃ first next settled,
      takeShown (Isolating.initial configuration.startupArguments) rehearsal = .ok () first ∧
      takeShown (Isolating.user (configuration.userTarget uid gid)) first = .ok () next ∧
      settled.caps =
        settledCaps (configuration.userTarget uid gid) (narrowed configuration process) ∧
      Stands start [.initial configuration.startupArguments,
        .user (configuration.userTarget uid gid)] settled next := by
  obtain ⟨first, opened, stands⟩ := initial_shown valid within stands
  have narrower : (narrowed configuration process).caps.effective ⊆
      (narrowed configuration process).caps.permitted := CapSet.inter_subset_inter within _
  obtain ⟨settled, replayed, caps⟩ := IsolationStep.replay_user _ narrower settles
  obtain ⟨next, switched, stands⟩ := takeShown_ok stands rfl
    (fun _ _ same => IsolationStep.noConfusion same) replayed
  exact ⟨first, next, settled, opened, switched, caps, stands⟩

/-- Showing a fork changes only the output. -/
theorem forkShown (configuration : Configuration) {done : List IsolationStep}
    (stands : Stands start done process rehearsal) :
    ∃ later,
      (do
        if !configuration.foreground then printLine (callLine "fork()")
        takeShown (Isolating.postfork configuration.context)
        showRest : Rehearsing Unit) rehearsal =
      (do
        takeShown (Isolating.postfork configuration.context)
        showRest : Rehearsing Unit) later ∧ Stands start done process later := by
  cases configuration.foreground with
  | true => exact ⟨rehearsal, rfl, stands⟩
  | false =>
      refine ⟨{ rehearsal with output := rehearsal.output ++ callLine "fork()" ++ "\n" }, rfl, ?_⟩
      exact ⟨stands.attained, stands.process, stands.unhindered⟩

/-- Where the user step does not settle, a rehearsal fails for lack of permission. -/
theorem rehearse_unsettled (valid : configuration.validate = .ok ())
    (within : process.caps.effective ⊆ process.caps.permitted)
    (stands : Stands start [] process rehearsal)
    (unsettled : ¬ (configuration.userTarget uid gid).SettlesOn
      (narrowed configuration process)) :
    ∃ failure later, rehearse configuration uid gid rehearsal = .error (.failed failure) later ∧
      failure.errno? = some .eperm := by
  obtain ⟨first, opened, stands⟩ := initial_shown valid within stands
  obtain ⟨failure, later, refused, told⟩ := takeShown_error stands rfl
    (fun _ _ same => IsolationStep.noConfusion same)
    (IsolationStep.replay_user_refused _ unsettled)
  exact ⟨failure, later, (bind_of_ok opened).trans (bind_of_error refused), told⟩

/-- Where the process settles without `CAP_SYS_ADMIN`, a rehearsal fails for lack of permission. -/
theorem rehearse_unentitled (valid : configuration.validate = .ok ())
    (within : process.caps.effective ⊆ process.caps.permitted)
    (stands : Stands start [] process rehearsal)
    (settles : (configuration.userTarget uid gid).SettlesOn (narrowed configuration process))
    (unentitled : ¬ (settledCaps (configuration.userTarget uid gid)
      (narrowed configuration process)).effective.contains .sysAdmin) :
    ∃ failure later, rehearse configuration uid gid rehearsal = .error (.failed failure) later ∧
      failure.errno? = some .eperm := by
  obtain ⟨first, next, settled, opened, switched, caps, stands⟩ :=
    user_shown valid within stands settles
  rw [← caps] at unentitled
  obtain ⟨failure, later, refused, told⟩ := takeShown_error stands rfl
    (fun _ _ same => IsolationStep.noConfusion same)
    (IsolationStep.replay_prefork_refused configuration.context unentitled)
  exact ⟨failure, later, (bind_of_ok opened).trans <| (bind_of_ok switched).trans <|
    bind_of_error refused, told⟩

/-- Where the process settles with `CAP_SYS_ADMIN`, a rehearsal succeeds and shows the capabilities
that are retained. -/
theorem rehearse_ok (valid : configuration.validate = .ok ())
    (within : process.caps.effective ⊆ process.caps.permitted)
    (stands : Stands start [] process rehearsal)
    (settles : (configuration.userTarget uid gid).SettlesOn (narrowed configuration process))
    (entitled : (settledCaps (configuration.userTarget uid gid)
      (narrowed configuration process)).effective.contains .sysAdmin) :
    ∃ later shown rest, rehearse configuration uid gid rehearsal = .ok () later ∧
      later.privileges.retained =
        ((settledCaps (configuration.userTarget uid gid)
          (narrowed configuration process)).restrict
            (Policy.runtimeKeep configuration.operating)).retained ∧
      later.output =
        shown ++ s!"\nRetained capabilities: {later.privileges.retained}" ++ "\n" ++ rest := by
  obtain ⟨first, next, settled, opened, switched, caps, stands⟩ :=
    user_shown valid within stands settles
  rw [← caps] at entitled
  have inside : settled.caps.effective ⊆ settled.caps.permitted := by
    rw [caps]
    exact IsolationStep.within_capsInside
      (IsolationStep.within_capsAs (CapSet.inter_subset_inter within _) _) _
  obtain ⟨confined, replayed, confinedCaps⟩ :=
    IsolationStep.replay_prefork configuration.context inside entitled
  obtain ⟨third, secluded, stands⟩ := takeShown_ok stands rfl
    (fun _ _ same => IsolationStep.noConfusion same) replayed
  obtain ⟨forked, detached, stands⟩ := forkShown configuration stands
  obtain ⟨last, sealed, stands⟩ := takeShown_ok stands rfl
    (fun _ _ same => IsolationStep.noConfusion same)
    (IsolationStep.replay_postfork configuration.context)
  obtain ⟨rest, shown⟩ := showRest_ok last
  have late : Stage.userSwitched.index ≤ last.privileges.stage.index := by
    rw [stands.attained.index_eq]
    exact Nat.le_add_left 2 2
  have known := stands.attained.known late
  have retained : last.privileges.retained = (confined.caps).retained := by
    rw [PrivilegeRecord.retained, known.caps, stands.process]
    rfl
  have whole : rehearse configuration uid gid rehearsal = _ :=
    (bind_of_ok opened).trans <| (bind_of_ok switched).trans <|
      (bind_of_ok secluded).trans <| detached.trans <| (bind_of_ok sealed).trans shown
  refine ⟨_, last.output, rest, whole, ?_, rfl⟩
  exact retained.trans (by rw [confinedCaps, caps]; rfl)

end Steps

/-! ## The starting identities -/

/-- The identities with which a configuration can be rehearsed to the end. The superuser has to
enter a user namespace, or to stay the superuser in a restricted mode; anyone else has to stay who
they are and to enter a user namespace. -/
def Admits (configuration : Configuration) (realUid realGid effectiveUid : UInt32) : Prop :=
  let uid := configuration.uid.getD realUid
  let gid := configuration.gid.getD realGid
  let entered := configuration.userNamespace.isSome ∨ configuration.createsUserNamespace
  if effectiveUid = 0 then entered ∨ (configuration.operating.isRestricted ∧ uid = 0)
  else uid = realUid ∧ gid = realGid ∧ entered

/-- Who is admitted, told in terms of the target of the user step. -/
theorem admits_eq (configuration : Configuration) (realUid realGid effectiveUid : UInt32) :
    Admits configuration realUid realGid effectiveUid =
      if effectiveUid = 0 then (configuration.userTarget realUid realGid).Enters ∨
        (configuration.operating.isRestricted ∧
          (configuration.userTarget realUid realGid).uid = 0)
      else (configuration.userTarget realUid realGid).uid = realUid ∧
        (configuration.userTarget realUid realGid).gid = realGid ∧
        (configuration.userTarget realUid realGid).Enters := rfl

/-- A rehearsal starts where no step is done. -/
theorem stands_start (kernel : SimulatedKernel) (unhindered : kernel.Unhindered) :
    Stands { kernel } [] kernel.process (.start kernel) where
  attained := .startup ⟨rfl, .initial _, trivial⟩
  process := rfl
  unhindered := unhindered

/-- Of sets that have what is to be kept, just that is retained. -/
theorem retained_restrict {caps : ProcessCaps} {keep : CapSet} (effective : keep ⊆ caps.effective)
    (permitted : keep ⊆ caps.permitted) : (caps.restrict keep).retained = keep := by
  apply CapSet.subset_antisymm
  · exact CapSet.subset_trans (CapSet.inter_subset_left _ _) (CapSet.inter_subset_right _ _)
  · rw [CapSet.subset_iff] at effective permitted ⊢
    intro bit member
    change ((caps.effective ∩ keep) ∩ (caps.permitted ∩ keep)).containsBit bit = true
    simp only [CapSet.containsBit_inter, effective bit member, permitted bit member, member,
      Bool.and_true]

section Superuser

variable (configuration : Configuration)

/-- Becoming someone else costs the superuser every capability. -/
theorem capsAs_root (uid : UInt32) : (narrowed configuration .root).capsAs uid =
    if uid = 0 then SimulatedProcess.root.caps.restrict (Policy.setupKeep 0 true) else {} := by
  by_cases stays : uid = 0
  · rw [if_pos stays, SimulatedProcess.capsAs, if_neg fun changes => changes.2 stays]
    rfl
  · rw [if_neg stays, SimulatedProcess.capsAs, if_pos ⟨rfl, stays⟩]
    change (SimulatedProcess.root.caps.restrict (Policy.setupKeep 0 true)).restrict ∅ = {}
    decide

/-- The superuser settles by entering a user namespace or in a restricted mode. -/
theorem settlesOn_root (realUid realGid : UInt32) :
    (configuration.userTarget realUid realGid).SettlesOn (narrowed configuration .root) ↔
      (configuration.userTarget realUid realGid).Enters ∨
        configuration.operating.isRestricted := by
  have setgid : (narrowed configuration .root).has .setgid = true := by
    change (SimulatedProcess.root.caps.restrict (Policy.setupKeep 0 true)).effective.contains
      .setgid = true
    decide
  have setuid : (narrowed configuration .root).has .setuid = true := by
    change (SimulatedProcess.root.caps.restrict (Policy.setupKeep 0 true)).effective.contains
      .setuid = true
    decide
  have without : ∀ uid, ¬ ((narrowed configuration .root).capsAs uid).effective.contains
      .setpcap = true := by
    intro uid
    rw [capsAs_root]
    split <;> decide
  constructor
  · rintro ⟨-, -, restricted | entitled⟩
    · exact .inr restricted
    · by_cases enters : (configuration.userTarget realUid realGid).Enters
      · exact .inl enters
      · rw [UserTarget.capsInside_of_stays enters] at entitled
        exact absurd entitled (without _)
  · rintro (enters | restricted)
    · refine ⟨.inr setgid, .inr setuid, .inr ?_⟩
      rw [UserTarget.capsInside_of_enters enters]
      change CapSet.all.contains .setpcap = true
      decide
    · exact ⟨.inr setgid, .inr setuid, .inl restricted⟩

/-- Outside a user namespace the superuser keeps `CAP_SYS_ADMIN` by staying the superuser. -/
theorem settledCaps_root {target : UserTarget} (stays : ¬ target.Enters) :
    (settledCaps target (narrowed configuration .root)).effective.contains .sysAdmin ↔
      target.uid = 0 := by
  rw [settledCaps, UserTarget.capsInside_of_stays stays, capsAs_root]
  by_cases same : target.uid = 0
  · rw [if_pos same]
    exact iff_of_true (by decide) same
  · rw [if_neg same]
    exact iff_of_false (by decide) same

end Superuser

section Unprivileged

variable (configuration : Configuration) (realUid realGid : UInt32)

/-- Anyone else has nothing to narrow. -/
theorem caps_unprivileged :
    (narrowed configuration (.unprivileged realUid realGid)).caps = {} := by
  have absent : ∀ keep : CapSet, ∅ ∩ keep = ∅ := fun keep =>
    CapSet.subset_antisymm (CapSet.inter_subset_left _ _) (CapSet.empty_subset _)
  change ({} : ProcessCaps).restrict _ = {}
  rw [ProcessCaps.restrict, absent]

/-- Anyone else has no capabilities under another identity either. -/
theorem capsAs_unprivileged (uid : UInt32) :
    (narrowed configuration (.unprivileged realUid realGid)).capsAs uid = {} := by
  rw [SimulatedProcess.capsAs, caps_unprivileged]
  split
  · decide
  · rfl

/-- Anyone else settles by staying who they are, in a user namespace or in a restricted mode. -/
theorem settlesOn_unprivileged {target : UserTarget} :
    target.SettlesOn (narrowed configuration (.unprivileged realUid realGid)) ↔
      target.gid = realGid ∧ target.uid = realUid ∧
        (target.operating.isRestricted ∨ target.Enters) := by
  have without : ∀ capability, ¬ CapSet.contains ∅ capability = true := by
    intro capability
    rw [CapSet.contains, CapSet.containsBit_empty]
    exact Bool.false_ne_true
  have unable : ∀ capability,
      ¬ (narrowed configuration (.unprivileged realUid realGid)).has capability = true := by
    intro capability
    rw [SimulatedProcess.has, caps_unprivileged]
    exact without capability
  constructor
  · rintro ⟨gid, uid, bounding⟩
    refine ⟨gid.resolve_right (unable _), uid.resolve_right (unable _), ?_⟩
    by_cases enters : target.Enters
    · exact .inr enters
    · rw [UserTarget.capsInside_of_stays enters, capsAs_unprivileged] at bounding
      exact .inl (bounding.resolve_right (without _))
  · rintro ⟨gid, uid, restricted | enters⟩
    · exact ⟨.inl gid, .inl uid, .inl restricted⟩
    · refine ⟨.inl gid, .inl uid, .inr ?_⟩
      rw [UserTarget.capsInside_of_enters enters]
      change CapSet.all.contains .setpcap = true
      decide

/-- Outside a user namespace anyone else has no `CAP_SYS_ADMIN`. -/
theorem settledCaps_unprivileged {target : UserTarget} (stays : ¬ target.Enters) :
    ¬ (settledCaps target (narrowed configuration (.unprivileged realUid realGid))
      ).effective.contains .sysAdmin := by
  rw [settledCaps, UserTarget.capsInside_of_stays stays, capsAs_unprivileged]
  decide

end Unprivileged

/-- In a user namespace of its own a process has every capability. -/
theorem settledCaps_of_enters {target : UserTarget} (enters : target.Enters)
    (process : SimulatedProcess) :
    settledCaps target process = { effective := CapSet.all, permitted := CapSet.all } := by
  rw [settledCaps, UserTarget.capsInside_of_enters enters]
  rfl

/-- In a user namespace of its own a process has `CAP_SYS_ADMIN`. -/
theorem entitled_of_enters {target : UserTarget} (enters : target.Enters)
    (process : SimulatedProcess) :
    (settledCaps target process).effective.contains .sysAdmin = true := by
  rw [settledCaps_of_enters enters]
  decide

section Identities

variable {effectiveUid : UInt32} (realUid realGid : UInt32)

theorem process_superuser (superuser : effectiveUid = 0) :
    (kernelFor realUid realGid effectiveUid).process = .root := by
  rw [kernelFor, if_pos superuser]
  rfl

theorem process_unprivileged (unprivileged : effectiveUid ≠ 0) :
    (kernelFor realUid realGid effectiveUid).process = .unprivileged realUid realGid := by
  rw [kernelFor, if_neg unprivileged]
  rfl

/-- The identities decide whether the process can take on that of its target, and whether it then
may leave namespaces behind. -/
theorem admits_iff (configuration : Configuration) (effectiveUid : UInt32) :
    Admits configuration realUid realGid effectiveUid ↔
      (configuration.userTarget realUid realGid).SettlesOn
          (narrowed configuration (kernelFor realUid realGid effectiveUid).process) ∧
        (settledCaps (configuration.userTarget realUid realGid)
          (narrowed configuration (kernelFor realUid realGid effectiveUid).process)
          ).effective.contains .sysAdmin := by
  by_cases superuser : effectiveUid = 0
  · rw [admits_eq, if_pos superuser, process_superuser realUid realGid superuser, settlesOn_root]
    by_cases enters : (configuration.userTarget realUid realGid).Enters
    · exact iff_of_true (.inl enters) ⟨.inl enters, entitled_of_enters enters _⟩
    · rw [settledCaps_root configuration enters, or_iff_right enters, or_iff_right enters]
  · rw [admits_eq, if_neg superuser, process_unprivileged realUid realGid superuser,
      settlesOn_unprivileged]
    by_cases enters : (configuration.userTarget realUid realGid).Enters
    · have entitled := entitled_of_enters enters
        (narrowed configuration (.unprivileged realUid realGid))
      constructor
      · rintro ⟨uid, gid, -⟩
        exact ⟨⟨gid, uid, .inr enters⟩, entitled⟩
      · rintro ⟨⟨gid, uid, -⟩, -⟩
        exact ⟨uid, gid, enters⟩
    · have unentitled := settledCaps_unprivileged configuration realUid realGid enters
      exact iff_of_false (fun admitted => enters admitted.2.2) fun settled => unentitled settled.2

/-- Where a rehearsal can succeed, all that is kept at run time is still there. -/
theorem retained_of_admits {configuration : Configuration}
    (admits : Admits configuration realUid realGid effectiveUid) :
    ((settledCaps (configuration.userTarget realUid realGid)
      (narrowed configuration (kernelFor realUid realGid effectiveUid).process)).restrict
        (Policy.runtimeKeep configuration.operating)).retained =
      Policy.runtimeKeep configuration.operating := by
  by_cases enters : (configuration.userTarget realUid realGid).Enters
  · have ample : Policy.runtimeKeep configuration.operating ⊆ CapSet.all := by
      rw [Policy.runtimeKeep]
      split <;> decide
    rw [settledCaps_of_enters enters]
    exact retained_restrict ample ample
  · rw [admits_eq] at admits
    split at admits
    case isTrue superuser =>
        have same := (admits.resolve_left enters).2
        rw [process_superuser realUid realGid superuser, settledCaps,
          UserTarget.capsInside_of_stays enters, capsAs_root, if_pos same]
        have ample : Policy.runtimeKeep configuration.operating ⊆
            CapSet.all ∩ Policy.setupKeep 0 true := by
          rw [Policy.runtimeKeep]
          split <;> decide
        exact retained_restrict ample ample
    case isFalse => exact absurd admits.2.2 enters

end Identities

section Outcome

variable {configuration : Configuration} {realUid realGid effectiveUid : UInt32}

/-- No failure is asked for in a rehearsal. -/
theorem unhindered_kernelFor : (kernelFor realUid realGid effectiveUid).Unhindered := by
  intro operation
  rw [kernelFor]
  split <;> rfl

/-- The effective set of a rehearsal's kernel is permitted. -/
theorem within_kernelFor : (kernelFor realUid realGid effectiveUid).process.caps.effective ⊆
    (kernelFor realUid realGid effectiveUid).process.caps.permitted := by
  rw [kernelFor]
  split
  · exact CapSet.subset_refl _
  · exact CapSet.subset_refl _

/-- Who is admitted is rehearsed to the end. -/
theorem rehearse_admitted (valid : configuration.validate = .ok ())
    (admits : Admits configuration realUid realGid effectiveUid) :
    ∃ later shown rest,
      rehearse configuration realUid realGid (.start (kernelFor realUid realGid effectiveUid)) =
        .ok () later ∧
      later.privileges.retained = Policy.runtimeKeep configuration.operating ∧
      later.output = shown ++
        s!"\nRetained capabilities: {Policy.runtimeKeep configuration.operating}" ++ "\n" ++
          rest := by
  obtain ⟨settles, entitled⟩ := (admits_iff realUid realGid configuration effectiveUid).mp admits
  obtain ⟨later, shown, rest, ended, retained, output⟩ :=
    rehearse_ok valid within_kernelFor (stands_start _ unhindered_kernelFor) settles entitled
  rw [retained_of_admits realUid realGid admits] at retained
  refine ⟨later, shown, rest, ended, retained, ?_⟩
  rw [output, retained]

/-- Who is not admitted is refused for lack of permission. -/
theorem rehearse_refused (valid : configuration.validate = .ok ())
    (refused : ¬ Admits configuration realUid realGid effectiveUid) :
    ∃ failure later,
      rehearse configuration realUid realGid (.start (kernelFor realUid realGid effectiveUid)) =
        .error (.failed failure) later ∧ failure.errno? = some .eperm := by
  have stands := stands_start (kernelFor realUid realGid effectiveUid) unhindered_kernelFor
  rw [admits_iff] at refused
  by_cases settles : (configuration.userTarget realUid realGid).SettlesOn
      (narrowed configuration (kernelFor realUid realGid effectiveUid).process)
  · exact rehearse_unentitled valid within_kernelFor stands settles fun entitled =>
      refused ⟨settles, entitled⟩
  · exact rehearse_unsettled valid within_kernelFor stands settles

end Outcome

/-- **Success of a rehearsal.** A valid configuration is rehearsed to the end exactly where the
identities admit it. Then the capabilities that are shown are those of run time; otherwise a call
is refused for want of a right. -/
theorem rehearse_succeeds {configuration : Configuration}
    (valid : configuration.validate = .ok ()) (realUid realGid effectiveUid : UInt32) :
    ((∃ later, rehearse configuration realUid realGid
        (.start (kernelFor realUid realGid effectiveUid)) = .ok () later) ↔
      Admits configuration realUid realGid effectiveUid) ∧
    (∀ later, rehearse configuration realUid realGid
        (.start (kernelFor realUid realGid effectiveUid)) = .ok () later →
      later.privileges.retained = Policy.runtimeKeep configuration.operating ∧
      ∃ shown rest, later.output = shown ++
        s!"\nRetained capabilities: {Policy.runtimeKeep configuration.operating}" ++ "\n" ++
          rest) ∧
    ∀ fault later, rehearse configuration realUid realGid
        (.start (kernelFor realUid realGid effectiveUid)) = .error fault later →
      ∃ failure, fault = .failed failure ∧ failure.errno? = some .eperm := by
  by_cases admits : Admits configuration realUid realGid effectiveUid
  · obtain ⟨last, shown, rest, ended, retained, output⟩ := rehearse_admitted valid admits
    refine ⟨iff_of_true ⟨last, ended⟩ admits, ?_, ?_⟩
    · intro later succeeded
      cases ended.symm.trans succeeded
      exact ⟨retained, shown, rest, output⟩
    · intro fault later failed
      cases ended.symm.trans failed
  · obtain ⟨failure, last, ended, told⟩ := rehearse_refused valid admits
    refine ⟨iff_of_false ?_ admits, ?_, ?_⟩
    · rintro ⟨later, succeeded⟩
      cases ended.symm.trans succeeded
    · intro later succeeded
      cases ended.symm.trans succeeded
    · intro fault later failed
      cases ended.symm.trans failed
      exact ⟨failure, rfl, told⟩

/-- A user without capabilities is admitted to a namespace in which all are regained. -/
theorem rehearse_succeeds_pasta : ∃ later,
    rehearse { mode := .pasta } 1000 1000 (.start (kernelFor 1000 1000 1000)) = .ok () later ∧
      later.privileges.retained = CapSet.ofList [.sysAdmin, .netBindService] := by
  have valid : ({ mode := .pasta } : Configuration).validate = .ok () := by rfl
  have admits : Admits { mode := .pasta } 1000 1000 1000 := ⟨rfl, rfl, .inr rfl⟩
  obtain ⟨succeeds, kept, -⟩ := rehearse_succeeds valid 1000 1000 1000
  obtain ⟨later, ended⟩ := succeeds.mpr admits
  exact ⟨later, ended, (kept later ended).1⟩

end Rehearsal

end SelfIsolation
