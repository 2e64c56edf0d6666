import SelfIsolation.Proofs.Control.Configured
import SelfIsolation.Proofs.Control.Rehearsal
import SelfIsolation.Proofs.Host.Narrowing
import SelfIsolation.Proofs.Host.Sweep
import SelfIsolation.Proofs.Simulation.Submission

/-! # The descriptor of a configuration at startup

The initial step is given the descriptor of a configuration as text and reads it back.
For a valid configuration it does what it would do if it were given the descriptor
itself (`SelfIsolation.Isolating.initial_eq`): it sweeps the descriptors but for that
one, records it, and never fails for its arguments
(`SelfIsolation.Configuration.startup_exact`). Nothing after the sweep closes a
descriptor, because narrowing the capabilities only reads and writes them
(`SelfIsolation.Isolating.afterSweep_keeps`).
-/

namespace SelfIsolation

/-! ## What lasts while capabilities are narrowed -/

/-- However it ends, an action leaves what holds of the kernel. -/
def KernelAction.Keeps {κ ε α : Type} (holds : κ → Prop) (action : KernelAction κ ε α) : Prop :=
  ∀ machine, holds machine.kernel → holds (action.reached machine).kernel

namespace KernelAction.Keeps

variable {κ ε α : Type} {holds : κ → Prop} {action : KernelAction κ ε α}
  {machine next : Machine κ}

theorem ok (keeps : action.Keeps holds) (start : holds machine.kernel) {value : α}
    (taken : action machine = .ok value next) : holds next.kernel := by
  have kept := keeps machine start
  rwa [(ends_of_ok taken).right] at kept

theorem error (keeps : action.Keeps holds) (start : holds machine.kernel) {e : ε}
    (taken : action machine = .error e next) : holds next.kernel := by
  have kept := keeps machine start
  rwa [(ends_of_error taken).right] at kept

end KernelAction.Keeps

/-- What lasts of a kernel while its capability sets are read and written. -/
structure Kernel.Lasting {κ : Type} [Kernel κ] (holds : κ → Prop) : Prop where
  reading : (readCaps : KernelAction κ Errno ProcessCaps).Keeps holds
  writing : ∀ sets, (writeCaps sets : KernelAction κ Errno Unit).Keeps holds
  asking : ∀ machine : Machine κ, holds machine.kernel →
    holds (inInitialUserNamespace machine).2.kernel

namespace PrivilegeRecord

variable {record changed : PrivilegeRecord}

theorem withCaps_designated {sets : ProcessCaps} (recorded : record.withCaps sets = .ok changed) :
    changed.designated = record.designated := by
  rw [withCaps_eq recorded]

theorem advance_designated (advanced : record.advance = .ok changed) :
    changed.designated = record.designated := by
  unfold advance at advanced
  split at advanced
  · cases advanced
    rfl
  · cases advanced

end PrivilegeRecord

namespace Isolating

variable {κ : Type}

/-- The failures to narrow the capability sets. -/
def IsNarrowing (failure : Failure) : Prop :=
  ∃ errno, failure = .call .readCaps errno ∨ failure = .call .narrowCaps errno

/-- A descriptor is recorded, and something holds of the kernel. -/
structure Recorded (holds : κ → Prop) (keep : Option Int32) (session : Session κ) : Prop where
  kernel : holds session.kernel
  designated : session.privileges.designated = keep

/-- Narrowing stopped, while something holds of the kernel. -/
structure Unnarrowed (holds : κ → Prop) (fault : Fault) (session : Session κ) : Prop where
  kernel : holds session.kernel
  narrowing : ∀ failure, fault = .failed failure → IsNarrowing failure

variable {holds : κ → Prop} {keep : Option Int32}

/-- Finishing the step leaves the record of the descriptor and the kernel. -/
theorem finish_recorded :
    Triple (Recorded holds keep) finish (fun _ => Recorded holds keep) (Unnarrowed holds) := by
  unfold finish
  refine Triple.bind (fun _ => Recorded holds keep) (Triple.recordingChecked ?_ ?_) fun _ => ?_
  · intro session privileges start advanced
    exact ⟨start.kernel, (PrivilegeRecord.advance_designated advanced).trans start.designated⟩
  · exact fun session violation start _ => ⟨start.kernel, fun _ broken => nomatch broken⟩
  refine Triple.bind (fun _ => Recorded holds keep) (Triple.get fun _ start => start) fun _ => ?_
  exact Triple.note _ _ fun session start => ⟨start.kernel, start.designated⟩

variable [Kernel κ]

/-- What the initial step does after the sweep. -/
def afterSweep (keep : Option Int32) : Isolating κ Unit := do
  recording fun privileges => { privileges with designated := keep }
  let uid := Kernel.effectiveUid (← get).toMachine
  let inInitial ← observe Kernel.inInitialUserNamespace
  restrictCaps (Policy.setupKeep uid inInitial)
  finish

/-- The initial step, given the descriptor itself. -/
def initialKeeping (keep : Option Int32) : Isolating κ Unit := do
  requireStage .startup "Initial isolation"
  perform (Kernel.closeDescriptors keep)
  afterSweep keep

/-- Arguments are only read for the descriptor that they designate. -/
theorem initial_eq {arguments : List String} (named : Descriptor.designated arguments = .ok keep) :
    (initial arguments : Isolating κ Unit) = initialKeeping keep := by
  unfold initial initialKeeping afterSweep
  rw [named]

/-! ## After the sweep -/

/-- Narrowing leaves the record of the descriptor, and what lasts of the kernel. -/
theorem restrictCaps_recorded (lasting : Kernel.Lasting holds) (set : CapSet) :
    Triple (Recorded holds keep) (restrictCaps set) (fun _ => Recorded holds keep)
      (Unnarrowed holds) := by
  unfold restrictCaps
  refine Triple.bind (fun _ => Recorded holds keep) (Triple.attempt ?_ ?_) fun current => ?_
  · intro session value machine start taken
    exact ⟨lasting.reading.ok start.kernel taken, start.designated⟩
  · intro session errno machine start taken
    refine ⟨lasting.reading.error start.kernel taken, ?_⟩
    rintro failure ⟨⟩
    exact ⟨errno, .inl rfl⟩
  refine Triple.bind (fun _ => Recorded holds keep) (Triple.attempt ?_ ?_) fun _ => ?_
  · intro session value machine start taken
    exact ⟨(lasting.writing _).ok start.kernel taken, start.designated⟩
  · intro session errno machine start taken
    refine ⟨(lasting.writing _).error start.kernel taken, ?_⟩
    rintro failure ⟨⟩
    exact ⟨errno, .inr rfl⟩
  refine Triple.bind (fun _ => Recorded holds keep) (Triple.note _ _ ?_) fun _ => ?_
  · exact fun session start => ⟨start.kernel, start.designated⟩
  refine Triple.recordingChecked ?_ ?_
  · intro session privileges start recorded
    exact ⟨start.kernel, (PrivilegeRecord.withCaps_designated recorded).trans start.designated⟩
  · exact fun session violation start _ => ⟨start.kernel, fun _ broken => nomatch broken⟩

variable (keep)

/-- What follows the sweep records the descriptor first, and leaves what lasts of the kernel. -/
theorem afterSweep_recorded (lasting : Kernel.Lasting holds) :
    Triple (fun session => holds session.kernel) (afterSweep keep)
      (fun _ => Recorded holds keep) (Unnarrowed holds) := by
  unfold afterSweep
  refine Triple.bind (fun _ => Recorded holds keep) (Triple.recording ?_) fun _ => ?_
  · exact fun session start => ⟨start, rfl⟩
  refine Triple.bind (fun _ => Recorded holds keep) (Triple.get fun _ start => start) fun _ => ?_
  refine Triple.bind (fun _ => Recorded holds keep) (Triple.observe ?_) fun _ => ?_
  · exact fun session start => ⟨lasting.asking _ start.kernel, start.designated⟩
  exact Triple.bind (fun _ => Recorded holds keep) (restrictCaps_recorded lasting _) fun _ =>
    finish_recorded

/-- After the sweep the descriptor is recorded and only narrowing fails, and what lasts while
capabilities are narrowed is left. -/
theorem afterSweep_keeps (lasting : Kernel.Lasting holds) (session : Session κ)
    (start : holds session.kernel) :
    holds ((afterSweep keep).reached session).kernel ∧
      ((afterSweep keep).ending session = .ok () →
        ((afterSweep keep).reached session).privileges.designated = keep) ∧
      ∀ failure, (afterSweep keep).ending session = .error (.failed failure) →
        IsNarrowing failure := by
  have outcome := (afterSweep_recorded keep lasting).ending_reached session start
  cases ended : (afterSweep keep).ending session with
  | ok value =>
      rw [ended] at outcome
      refine ⟨outcome.kernel, fun _ => outcome.designated, ?_⟩
      rintro failure ⟨⟩
  | error fault =>
      rw [ended] at outcome
      refine ⟨outcome.kernel, ?_, ?_⟩
      · rintro ⟨⟩
      · rintro failure ⟨⟩
        exact outcome.narrowing failure rfl

/-! ## The sweep and what follows -/

section Sweep

variable {session : Session κ} {machine : Machine κ}

theorem initialKeeping_of_startup (startup : session.privileges.stage = .startup) :
    initialKeeping keep session =
      (perform (Kernel.closeDescriptors keep) >>= fun _ => afterSweep keep) session :=
  bind_of_ok (requireStage_ok "Initial isolation" startup)

/-- A failed sweep ends the step. -/
theorem initialKeeping_unswept (startup : session.privileges.stage = .startup) {failure : Failure}
    (refused : Kernel.closeDescriptors keep session.toMachine = .error failure machine) :
    (initialKeeping keep).ending session = .error (.failed failure) ∧
      (initialKeeping keep).reached session = { session with toMachine := machine } := by
  apply ends_of_error
  rw [initialKeeping_of_startup keep startup]
  apply bind_of_error
  unfold perform
  rw [refused]

/-- After the sweep the step ends as what follows it does. -/
theorem initialKeeping_swept (startup : session.privileges.stage = .startup)
    (swept : Kernel.closeDescriptors keep session.toMachine = .ok () machine) :
    (initialKeeping keep).ending session =
        (afterSweep keep).ending { session with toMachine := machine } ∧
      (initialKeeping keep).reached session =
        (afterSweep keep).reached { session with toMachine := machine } := by
  have taken : initialKeeping keep session =
      afterSweep keep { session with toMachine := machine } := by
    rw [initialKeeping_of_startup keep startup]
    apply bind_of_ok
    unfold perform
    rw [swept]
  unfold ending reached
  rw [taken]
  exact ⟨rfl, rfl⟩

end Sweep

/-- A step that sweeps all descriptors but one and takes that one down. -/
structure TakesDown (keep : Option Int32) (step : Isolating κ Unit) (session : Session κ) :
    Prop where
  /-- Where the sweep fails, so does the step, and it does nothing else. -/
  unswept : session.privileges.stage = .startup → ∀ failure,
    (Kernel.closeDescriptors keep).ending session.toMachine = .error failure →
    step.ending session = .error (.failed failure) ∧ (step.reached session).toMachine =
      (Kernel.closeDescriptors keep).reached session.toMachine
  /-- Where the step ends well, so did the sweep, and the descriptor is recorded. -/
  recorded : step.ending session = .ok () →
    (Kernel.closeDescriptors keep).ending session.toMachine = .ok () ∧
      (step.reached session).privileges.designated = keep
  /-- The step fails only in the sweep and in narrowing the capability sets. -/
  failed : ∀ failure, step.ending session = .error (.failed failure) →
    (Kernel.closeDescriptors keep).ending session.toMachine = .error failure ∨
      IsNarrowing failure

variable (session : Session κ)

/-- Out of order the step breaks the protocol. -/
theorem initialKeeping_violated (elsewhere : session.privileges.stage ≠ .startup) :
    ∃ violation, (initialKeeping keep).ending session = .error (.violated violation) :=
  ⟨_, (ends_of_error (bind_of_error
    (requireStage_violated "Initial isolation" elsewhere))).left⟩

/-- The step that is given a descriptor takes that one down. -/
theorem initialKeeping_takesDown : TakesDown keep (initialKeeping keep) session := by
  by_cases startup : session.privileges.stage = .startup
  · cases taken : Kernel.closeDescriptors keep session.toMachine with
    | error failure machine =>
        obtain ⟨refused, left⟩ := KernelAction.ends_of_error taken
        obtain ⟨ended, reached⟩ := initialKeeping_unswept keep startup taken
        refine ⟨fun _ found same => ?_, fun well => ?_, fun found stopped => .inl ?_⟩
        · cases refused.symm.trans same
          exact ⟨ended, by rw [reached, left]⟩
        · cases ended.symm.trans well
        · cases ended.symm.trans stopped
          exact refused
    | ok value machine =>
        -- The kernel does not matter here, only the record and the failures do.
        have always : Kernel.Lasting fun _ : κ => True :=
          ⟨fun _ _ => trivial, fun _ _ _ => trivial, fun _ _ => trivial⟩
        obtain ⟨swept, -⟩ := KernelAction.ends_of_ok taken
        obtain ⟨ended, reached⟩ := initialKeeping_swept keep startup taken
        obtain ⟨-, recorded, narrowing⟩ :=
          afterSweep_keeps keep always { session with toMachine := machine } trivial
        refine ⟨fun _ found same => ?_, fun well => ?_, fun found stopped => .inr ?_⟩
        · cases swept.symm.trans same
        · rw [reached]
          exact ⟨swept, recorded (ended.symm.trans well)⟩
        · exact narrowing found (ended.symm.trans stopped)
  · obtain ⟨violation, ended⟩ := initialKeeping_violated keep session startup
    refine ⟨fun reached => absurd reached startup, fun well => ?_, fun found stopped => ?_⟩
    · cases ended.symm.trans well
    · cases ended.symm.trans stopped

/-- What lasts from the sweep on is left by the step. -/
theorem initialKeeping_keeps (lasting : Kernel.Lasting holds)
    (startup : session.privileges.stage = .startup)
    (start : holds ((Kernel.closeDescriptors keep).reached session.toMachine).kernel) :
    holds ((initialKeeping keep).reached session).kernel := by
  cases taken : Kernel.closeDescriptors keep session.toMachine with
  | error failure machine =>
      rw [(KernelAction.ends_of_error taken).right] at start
      rw [(initialKeeping_unswept keep startup taken).right]
      exact start
  | ok value machine =>
      rw [(KernelAction.ends_of_ok taken).right] at start
      rw [(initialKeeping_swept keep startup taken).right]
      exact (afterSweep_keeps keep lasting { session with toMachine := machine } start).left

end Isolating

/-! ## The calls of the step -/

namespace SimulatedKernel

/-- After these calls there is no further sweep. -/
def SweepsNoMore (journal : List SimulatedCall) (kernel : SimulatedKernel) : Prop :=
  ∃ calls, kernel.journal = journal ++ calls ∧ ∀ call ∈ calls, call.operation ≠ .closeDescriptors

section Journals

variable {ε α : Type} {journal : List SimulatedCall} {call : SimulatedCall}

/-- A call that is no sweep leaves the sweeps that were made. -/
theorem SweepsNoMore.next {kernel next : SimulatedKernel} (spares : SweepsNoMore journal kernel)
    (other : call.operation ≠ .closeDescriptors)
    (entered : next.journal = kernel.journal ++ [call]) : SweepsNoMore journal next := by
  obtain ⟨calls, journaled, harmless⟩ := spares
  refine ⟨calls ++ [call], by rw [entered, journaled, List.append_assoc], ?_⟩
  exact List.forall_mem_append.mpr ⟨harmless, List.forall_mem_singleton.mpr other⟩

/-- An action that journals a call that is no sweep leaves the sweeps that were made. -/
theorem Journals.keeps {action : EStateM ε SimulatedKernel α} (journals : Journals call action)
    (other : call.operation ≠ .closeDescriptors) :
    (KernelAction.silent action).Keeps (SweepsNoMore journal) := by
  intro machine spares
  have entered := journals machine.kernel
  cases taken : action machine.kernel with
  | ok value next =>
      rw [taken] at entered
      rw [(KernelAction.silent_ends_of_ok taken).right]
      exact spares.next other entered
  | error e next =>
      rw [taken] at entered
      rw [(KernelAction.silent_ends_of_error taken).right]
      exact spares.next other entered

end Journals

/-- On a simulated kernel no sweep is made while capabilities are narrowed. -/
theorem sweepsNoMore_lasting (journal : List SimulatedCall) :
    Kernel.Lasting (SweepsNoMore journal) where
  reading := readCaps_journals.keeps nofun
  writing _ := (make_journals _ _ _).keeps nofun
  asking _ spares := spares

variable (keep : Option Int32) (machine : Machine SimulatedKernel)

/-- A sweep is one call, and fails only where that is asked for. -/
theorem closeDescriptors_journals :
    ((Kernel.closeDescriptors keep).reached machine).kernel.journal =
        machine.kernel.journal ++ [.closeDescriptors keep] ∧
      ∀ failure, (Kernel.closeDescriptors keep).ending machine = .error failure →
        ∃ errno, failure = .call (.simulated .closeDescriptors) errno := by
  cases taken : composite (.closeDescriptors keep)
      (fun process => .ok (process.closeDescriptors keep)) machine.kernel with
  | ok value next =>
      obtain ⟨-, process, -, rfl⟩ := make_ok taken
      obtain ⟨ended, left⟩ := KernelAction.silent_ends_of_ok taken
      refine ⟨congrArg (fun machine => machine.kernel.journal) left, fun failure refused => ?_⟩
      cases ended.symm.trans refused
  | error e next =>
      obtain ⟨rfl, cause⟩ := make_error taken
      obtain ⟨ended, left⟩ := KernelAction.silent_ends_of_error taken
      refine ⟨congrArg (fun machine => machine.kernel.journal) left, fun failure refused => ?_⟩
      cases ended.symm.trans refused
      obtain ⟨errno, -, injected⟩ | ⟨-, ruled⟩ := cause
      · exact ⟨errno, injected⟩
      · cases ruled

end SimulatedKernel

namespace Host

/-- After these calls nothing is closed. -/
def ClosesNoMore (trace : List CallEvent) (host : Host) : Prop :=
  ∃ events, host.trace = trace ++ events ∧ ∀ event ∈ events, ∀ number, ¬ event.call.Closes number

section Trace

variable {ε α : Type} {trace : List CallEvent}

/-- Calls that close nothing leave what was closed. -/
theorem ClosesNoMore.later {host next : Host} (spares : ClosesNoMore trace host)
    {more : List CallEvent} (traced : next.trace = host.trace ++ more)
    (harmless : ∀ event ∈ more, ∀ number, ¬ event.call.Closes number) :
    ClosesNoMore trace next := by
  obtain ⟨events, whole, before⟩ := spares
  refine ⟨events ++ more, by rw [traced, whole, List.append_assoc], ?_⟩
  exact List.forall_mem_append.mpr ⟨before, harmless⟩

/-- A call that closes nothing leaves what was closed, whether or not it is refused. -/
theorem make_keeps {call : SystemCall} {rule : System → Except Int (α × System)}
    (fault : Int → ε) (harmless : ∀ number, ¬ call.Closes number) :
    (KernelAction.silent (EStateM.adaptExcept fault (make call rule))).Keeps
      (ClosesNoMore trace) := by
  intro machine spares
  unfold KernelAction.reached KernelAction.silent EStateM.adaptExcept
  cases made : make call rule machine.kernel with
  | ok value next =>
      obtain ⟨script, system, -, rfl⟩ := make_ok made
      exact spares.later rfl (List.forall_mem_singleton.mpr harmless)
  | error code next =>
      obtain ⟨script, rfl⟩ := make_error made
      exact spares.later rfl (List.forall_mem_singleton.mpr harmless)

end Trace

/-- On a host nothing is closed while capabilities are narrowed. -/
theorem closesNoMore_lasting (trace : List CallEvent) : Kernel.Lasting (ClosesNoMore trace) where
  reading := make_keeps _ fun _ closes => closes
  writing _ := make_keeps _ fun _ closes => closes
  asking machine spares := by
    obtain ⟨-, events, traced, opened⟩ := inInitialUserNamespace_answers machine.kernel
    refine spares.later traced ?_
    obtain rfl | ⟨failure, rfl⟩ := opened
    · exact fun _ member => nomatch member
    · exact List.forall_mem_singleton.mpr fun _ closes => closes

/-! ## How a sweep fails -/

/-- An action that never fails for a configuration. -/
def Unconfigured {α : Type} (action : Action α) : Prop :=
  ∀ machine reason, action.ending machine ≠ .error (.configuration reason)

namespace Unconfigured

variable {α β : Type}

theorem pure (value : α) : Unconfigured (pure value) := fun _ _ stopped => nomatch stopped

theorem asking (question : StateM Host α) : Unconfigured (.asking question) :=
  fun _ _ stopped => nomatch stopped

theorem note (level : LogLevel) (text : String) : Unconfigured (note level text) :=
  fun _ _ stopped => nomatch stopped

theorem throw {failure : Failure} (other : ∀ reason, failure ≠ .configuration reason) :
    Unconfigured (α := α) (throw failure) :=
  fun _ reason stopped => other reason (Except.error.inj stopped)

/-- Use of a file fails for that file. -/
theorem onFile (use : EStateM FileFault Host α) : Unconfigured (Host.onFile .file use) := by
  intro machine reason stopped
  unfold KernelAction.ending Host.onFile KernelAction.silent EStateM.adaptExcept at stopped
  cases taken : use machine.kernel with
  | ok value next =>
      rw [taken] at stopped
      cases stopped
  | error fault next =>
      rw [taken] at stopped
      cases stopped

theorem bind {first : Action β} {second : β → Action α} (head : Unconfigured first)
    (tail : ∀ value, Unconfigured (second value)) : Unconfigured (first >>= second) := by
  intro machine reason
  cases taken : first machine with
  | ok value next =>
      rw [(KernelAction.bind_ends_of_ok second taken).left]
      exact tail value next reason
  | error failure next =>
      rw [(KernelAction.bind_ends_of_error second taken).left]
      have other := head machine reason
      rw [(KernelAction.ends_of_error taken).left] at other
      exact fun stopped => other (congrArg Except.error (Except.error.inj stopped))

end Unconfigured

/-- Closing one descriptor never fails for a configuration. -/
theorem closeOne_unconfigured (descriptor : Int32) : Unconfigured (closeOne descriptor) := by
  refine .bind (.asking _) fun answer => ?_
  cases answer with
  | ok value => exact .pure ()
  | error code =>
      dsimp only
      split
      · exact .pure ()
      · exact .throw fun _ same => nomatch same

/-- Closing what is listed never fails for a configuration. -/
theorem closeListed_unconfigured (keep : Option Int32) : Unconfigured (closeListed keep) := by
  refine .bind (.onFile _) fun names => ?_
  induction Descriptor.listed keep names with
  | nil => exact .pure ()
  | cons descriptor descriptors ih => exact .bind (closeOne_unconfigured descriptor) fun _ => ih

/-- Closing ranges never fails for a configuration. -/
theorem closeRanges_unconfigured (keep : Option Int32) (ranges : List Descriptor.Range) :
    Unconfigured (closeRanges keep ranges) := by
  induction ranges with
  | nil => exact .pure ()
  | cons range ranges ih =>
      refine .bind (.asking _) fun answer => ?_
      cases answer with
      | ok value => exact ih
      | error code =>
          dsimp only
          split
          · exact .bind (.note _ _) fun _ => closeListed_unconfigured keep
          · exact .throw fun _ same => nomatch same

end Host

namespace Isolating

/-- Narrowing never fails for a configuration. -/
theorem TakesDown.unconfigured {κ : Type} [Kernel κ] {keep : Option Int32}
    {step : Isolating κ Unit} {session : Session κ} (takesDown : TakesDown keep step session)
    (sweep : ∀ reason, (Kernel.closeDescriptors keep).ending session.toMachine ≠
      .error (.configuration reason)) (reason : ConfigReason) :
    step.ending session ≠ .error (.failed (.configuration reason)) := by
  intro stopped
  obtain refused | ⟨errno, read | written⟩ := takesDown.failed _ stopped
  · exact sweep reason refused
  · cases read
  · cases written

end Isolating

/-! ## The step of a valid configuration -/

namespace Isolating

variable (keep : Option Int32)

section Simulated

variable (session : Session SimulatedKernel)

/-- On a simulated kernel the step never fails for its arguments. -/
theorem initialKeeping_simulated (reason : ConfigReason) :
    (initialKeeping keep).ending session ≠ .error (.failed (.configuration reason)) := by
  obtain ⟨-, fails⟩ := SimulatedKernel.closeDescriptors_journals keep session.toMachine
  refine (initialKeeping_takesDown keep session).unconfigured (fun reason refused => ?_) reason
  obtain ⟨errno, called⟩ := fails _ refused
  cases called

/-- The sweep is the first call that the step makes of a simulated kernel, and its only sweep. -/
theorem initialKeeping_journal (startup : session.privileges.stage = .startup) :
    ∃ calls, ((initialKeeping keep).reached session).kernel.journal =
        session.kernel.journal ++ .closeDescriptors keep :: calls ∧
      ∀ call ∈ calls, call.operation ≠ .closeDescriptors := by
  obtain ⟨swept, -⟩ := SimulatedKernel.closeDescriptors_journals keep session.toMachine
  have lasting := SimulatedKernel.sweepsNoMore_lasting
    (session.kernel.journal ++ [.closeDescriptors keep])
  obtain ⟨calls, journaled, others⟩ := initialKeeping_keeps keep session lasting startup
    ⟨[], swept.trans (List.append_nil _).symm, fun _ member => nomatch member⟩
  exact ⟨calls, by rw [journaled, List.append_assoc]; rfl, others⟩

end Simulated

section Hosted

variable (session : Session Host)

/-- On a host the step never fails for its arguments. -/
theorem initialKeeping_hosted (reason : ConfigReason) :
    (initialKeeping keep).ending session ≠ .error (.failed (.configuration reason)) :=
  (initialKeeping_takesDown keep session).unconfigured
    (Host.closeRanges_unconfigured keep _ session.toMachine) reason

/-- The step sweeps the descriptors of a host first, and closes none after that. -/
theorem initialKeeping_trace (startup : session.privileges.stage = .startup) :
    ∃ swept later, ((initialKeeping keep).reached session).kernel.trace =
        session.kernel.trace ++ swept ++ later ∧
      Host.Sweeps keep session.kernel.system (Descriptor.sweepRanges keep)
        ((Kernel.closeDescriptors keep).ending session.toMachine) swept ∧
      ∀ event ∈ later, ∀ number, ¬ event.call.Closes number := by
  obtain ⟨-, swept, traced, sweeps⟩ :=
    Host.closeRanges_calls keep (Descriptor.sweepRanges keep) session.toMachine
  have lasting := Host.closesNoMore_lasting (session.kernel.trace ++ swept)
  obtain ⟨later, whole, harmless⟩ := initialKeeping_keeps keep session lasting startup
    ⟨[], traced.trans (List.append_nil _).symm, fun _ member => nomatch member⟩
  exact ⟨swept, later, whole, sweeps, harmless⟩

end Hosted

end Isolating

namespace Configuration

/-- The descriptor of a configuration survives as text: the initial step that is given the startup
arguments of the configuration does what it does given the descriptor itself. -/
structure KeepsDescriptor (configuration : Configuration) : Prop where
  designated : Descriptor.designated configuration.startupArguments = .ok configuration.descriptor
  initial : ∀ (κ : Type) [Kernel κ],
    (Isolating.initial configuration.startupArguments : Isolating κ Unit) =
      Isolating.initialKeeping configuration.descriptor
  /-- On any kernel the step sweeps all descriptors but that one, ends well only after it has
  recorded it, and fails only in the sweep and in narrowing capabilities. -/
  takesDown : ∀ (κ : Type) [Kernel κ] (session : Session κ),
    Isolating.TakesDown configuration.descriptor (Isolating.initial configuration.startupArguments)
      session
  /-- The step never fails for its arguments, neither on a simulated kernel nor on a host. -/
  simulated : ∀ (session : Session SimulatedKernel) (reason : ConfigReason),
    (Isolating.initial configuration.startupArguments).ending session ≠
      .error (.failed (.configuration reason))
  hosted : ∀ (session : Session Host) (reason : ConfigReason),
    (Isolating.initial configuration.startupArguments).ending session ≠
      .error (.failed (.configuration reason))
  /-- The only sweep that a simulated kernel journals spares that one descriptor. -/
  journaled : ∀ session : Session SimulatedKernel, session.privileges.stage = .startup →
    ∃ calls, ((Isolating.initial configuration.startupArguments).reached session).kernel.journal =
        session.kernel.journal ++ .closeDescriptors configuration.descriptor :: calls ∧
      ∀ call ∈ calls, call.operation ≠ .closeDescriptors
  /-- All that is closed on a host is closed by the sweep that spares that one descriptor. -/
  traced : ∀ session : Session Host, session.privileges.stage = .startup →
    ∃ swept later,
      ((Isolating.initial configuration.startupArguments).reached session).kernel.trace =
        session.kernel.trace ++ swept ++ later ∧
      Host.Sweeps configuration.descriptor session.kernel.system
        (Descriptor.sweepRanges configuration.descriptor)
        ((Kernel.closeDescriptors configuration.descriptor).ending session.toMachine) swept ∧
      ∀ event ∈ later, ∀ number, ¬ event.call.Closes number

/-- A valid configuration designates its descriptor by its startup arguments, and all the rest
follows from that. -/
theorem keepsDescriptor_of_valid {configuration : Configuration}
    (valid : configuration.validate = .ok ()) : configuration.KeepsDescriptor := by
  have named := designated_startupArguments valid
  constructor
  case designated => exact named
  case initial => exact fun κ kernel => Isolating.initial_eq named
  case takesDown =>
    intro κ kernel session
    rw [Isolating.initial_eq named]
    exact Isolating.initialKeeping_takesDown _ session
  case simulated =>
    intro session reason
    rw [Isolating.initial_eq named]
    exact Isolating.initialKeeping_simulated _ session reason
  case hosted =>
    intro session reason
    rw [Isolating.initial_eq named]
    exact Isolating.initialKeeping_hosted _ session reason
  case journaled =>
    intro session startup
    rw [Isolating.initial_eq named]
    exact Isolating.initialKeeping_journal _ session startup
  case traced =>
    intro session startup
    rw [Isolating.initial_eq named]
    exact Isolating.initialKeeping_trace _ session startup

/-- **The descriptor survives as text.** Whatever is read from a document, loaded from a file or
built from arguments is valid, and a valid configuration designates exactly its descriptor by its
startup arguments. The initial step that is given these arguments is therefore the one that is
given the descriptor, and never fails for its arguments. -/
theorem startup_exact :
    (∀ text configuration, parse text = .ok configuration → configuration.validate = .ok ()) ∧
    (∀ path machine configuration,
      (Program.loadConfiguration path).ending machine = .ok configuration →
      configuration.validate = .ok ()) ∧
    (∀ arguments machine configuration,
      (Program.buildConfiguration arguments).ending machine = .ok configuration →
      configuration.validate = .ok ()) ∧
    ∀ configuration : Configuration, configuration.validate = .ok () →
      configuration.KeepsDescriptor :=
  ⟨fun _ _ => validate_of_parse, fun _ _ _ => Program.validate_of_loaded,
    fun _ _ _ built => (Program.buildConfiguration_ok built).left,
    fun _ => keepsDescriptor_of_valid⟩

/-- The descriptor that a document or an argument gives is spared by the sweep of a simulated
superuser and of a host. -/
theorem startup_exact_designated :
    let document := "\x7b\"fd\":5\x7d"
    let configuration : Configuration := { descriptor := some 5 }
    let machine : Machine Host := { kernel.system.files := [("/etc/isolation", .text document)] }
    let rehearsed : Session SimulatedKernel := { kernel := .root }
    let taken : Session Host := { toMachine := machine }
    parse document = .ok configuration ∧
      (Program.loadConfiguration "/etc/isolation").ending machine = .ok configuration ∧
      (Program.buildConfiguration { descriptor := some 5 }).ending machine = .ok configuration ∧
      configuration.validate = .ok () ∧
      Descriptor.designated configuration.startupArguments = .ok (some 5) ∧
      (Isolating.initial configuration.startupArguments).ending rehearsed = .ok () ∧
      ((Isolating.initial configuration.startupArguments).reached
        rehearsed).privileges.designated = some 5 ∧
      (∃ calls, ((Isolating.initial configuration.startupArguments).reached
          rehearsed).kernel.journal = .closeDescriptors (some 5) :: calls ∧
        ∀ call ∈ calls, call.operation ≠ .closeDescriptors) ∧
      ∃ swept later, ((Isolating.initial configuration.startupArguments).reached
          taken).kernel.trace = swept ++ later ∧
        Host.Sweeps (some 5) taken.kernel.system [⟨3, 4⟩, ⟨6, Descriptor.largest⟩]
          ((Kernel.closeDescriptors (some 5)).ending machine) swept ∧
        ∀ event ∈ later, ∀ number, ¬ event.call.Closes number := by
  intro document configuration machine rehearsed taken
  have parsed : parse document = .ok configuration := parse_designating
  have loaded := Program.loadConfiguration_designating
  obtain ⟨validates, -, builds, survives⟩ := startup_exact
  have valid := validates document configuration parsed
  have built : (Program.buildConfiguration { descriptor := some 5 }).ending machine =
      .ok configuration :=
    Program.builds_of_valid (Program.baseConfiguration_of_none machine rfl)
      (IsolateArguments.completes_overlay _ _) valid
  have keeps := survives configuration (builds _ machine configuration built)
  have ended : (Isolating.initial configuration.startupArguments).ending rehearsed = .ok () := by
    decide +kernel
  exact ⟨parsed, loaded, built, valid, keeps.designated, ended,
    ((keeps.takesDown _ rehearsed).recorded ended).right, keeps.journaled rehearsed rfl,
    keeps.traced taken rfl⟩

end Configuration

end SelfIsolation
