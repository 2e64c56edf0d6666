import SelfIsolation.Proofs.Lifecycle.Plan
import SelfIsolation.Proofs.Lifecycle.Run

/-! # Scripts of the steps

Every step has a fixed script of calls (`SelfIsolation.IsolationStep.script`) and
passes over few error numbers (`SelfIsolation.IsolationStep.tolerated`). Taken in
any session, it makes a front part of its script and stops at the first refusal
that it does not pass over (`SelfIsolation.IsolationStep.take_scripted`).
-/

namespace SelfIsolation

namespace UserTarget

/-- The calls that enter the user namespace of a target, if it has one. -/
def namespaceCalls (target : UserTarget) : List SimulatedCall :=
  match target.userNamespace with
  | some path => [.joinUserNamespace path]
  | none =>
    if target.useUserNamespace then [.createUserNamespace target.uid target.gid] else []

/-- The capability sets once the user namespace is entered. -/
def capsInside (target : UserTarget) (caps : ProcessCaps) : ProcessCaps :=
  if target.namespaceCalls.isEmpty then caps
  else { caps with effective := CapSet.all, permitted := CapSet.all }

end UserTarget

namespace IsolationStep

/-- The calls of a step that a process takes, first to last. -/
def script (step : IsolationStep) (process : SimulatedProcess) : List SimulatedCall :=
  match step with
  | .initial arguments =>
    match Descriptor.designated arguments with
    | .ok keep =>
      let keepCaps := Policy.setupKeep process.effectiveUid process.inInitialUserNamespace
      [.closeDescriptors keep, .readCaps, .writeCaps (process.caps.restrict keepCaps)]
    | .error _ => []
  | .user target =>
    [.clearGroups, .setGid target.gid, .setUid target.uid] ++ target.namespaceCalls ++
      (List.range CapSet.width).map .dropBounding ++
      [.readCaps, .writeCaps (target.capsInside (process.capsAs target.uid)).clearInheritable]
  | .prefork context =>
    [.unshare context.preforkNamespaces, .isolateFilesystem context.root, .readCaps,
      .writeCaps (process.caps.restrict (Policy.runtimeKeep context.operating))]
  | .postfork context => [.disableCoreDumps, .installFilter (.ofMode context.operating.mode)]

/-- The error numbers that a step passes over. -/
def tolerated : IsolationStep → SimulatedCall → List Errno
  | .user _, .clearGroups => [.eperm]
  | .user target, .dropBounding _ =>
    if target.operating.isRestricted then [.einval, .eperm] else [.einval]
  | _, _ => []

end IsolationStep

namespace Isolating

open CallPlan

variable {plan : CallPlan} {rest : List SimulatedCall} {caps : ProcessCaps}
  {holds : SimulatedProcess → Prop}

/-- Checking the stage makes no call. -/
theorem requireStage_follows (expected : Stage) (step : String) :
    plan.Follows rest holds (requireStage expected step) rest (fun _ => holds) := by
  intro session remaining
  by_cases reached : session.privileges.stage = expected
  · rw [requireStage_ok step reached]
    exact remaining
  · rw [requireStage_violated step reached]
    exact remaining.violate _

/-- Finishing a step makes no call. -/
theorem finish_follows : plan.Follows rest holds finish rest (fun _ => holds) := by
  unfold finish
  exact Follows.bind _ Follows.recordingChecked fun _ =>
    Follows.reading fun _ _ => Follows.note _ _ fun _ held => held

/-- Both narrowing steps read the capability sets and write changed ones. -/
theorem replaceCaps_follows (change : ProcessCaps → ProcessCaps) (reading writing : Attempt)
    (next : ProcessCaps → Isolating SimulatedKernel Unit)
    (readFatal : plan.tolerated .readCaps = [])
    (writeFatal : ∀ sets, plan.tolerated (.writeCaps sets) = [])
    (follows : plan.Follows rest (fun _ => True) (next caps) rest (fun _ _ => True)) :
    plan.Follows (.readCaps :: .writeCaps (change caps) :: rest)
      (fun process => process.caps = caps) (do
        let sets ← attempt reading Kernel.readCaps
        attempt writing (Kernel.writeCaps (change sets))
        next sets) rest (fun _ _ => True) := by
  refine Follows.bind (fun sets _ => sets = caps)
    (Follows.readCaps readFatal fun _ known => known) fun sets => ?_
  refine Follows.knowing fun _ known => ?_
  subst known
  exact Follows.bind (fun _ _ => True)
    (Follows.attempt rfl (writeFatal _) fun _ _ _ _ => trivial) fun _ => follows

/-- Restricting reads the capability sets and writes what is kept of them. -/
theorem restrictCaps_follows (keep : CapSet) (readFatal : plan.tolerated .readCaps = [])
    (writeFatal : ∀ sets, plan.tolerated (.writeCaps sets) = []) :
    plan.Follows (.readCaps :: .writeCaps (caps.restrict keep) :: rest)
      (fun process => process.caps = caps) (restrictCaps keep) rest (fun _ _ => True) :=
  replaceCaps_follows (fun sets => sets.restrict keep) _ _ _ readFatal writeFatal
    (Follows.noting Follows.recordingChecked)

/-- Clearing the inheritable set reads the capability sets and writes them without it. -/
theorem clearInheritable_follows (readFatal : plan.tolerated .readCaps = [])
    (writeFatal : ∀ sets, plan.tolerated (.writeCaps sets) = []) :
    plan.Follows (.readCaps :: .writeCaps caps.clearInheritable :: rest)
      (fun process => process.caps = caps) clearInheritable rest (fun _ _ => True) :=
  replaceCaps_follows ProcessCaps.clearInheritable _ _ _ readFatal writeFatal
    Follows.recordingChecked

/-- **Step.** A bit is dropped by one call. -/
theorem dropBoundingBit_follows (tolerance : Tolerance) (refused bit : Nat)
    (listed : plan.tolerated (.dropBounding bit) = tolerance.errnos) :
    plan.Follows (.dropBounding bit :: rest) (fun process => process.caps = caps)
      (dropBoundingBit tolerance refused bit) rest (fun _ process => process.caps = caps) := by
  unfold dropBoundingBit
  refine Follows.bind (fun _ process => process.caps = caps)
    (Follows.tolerate rfl listed ?_ fun _ _ known => known) fun outcome => ?_
  · intro process next known accepted
    obtain ⟨capability, _, rfl⟩ := SimulatedProcess.dropBounding_ok accepted
    exact known
  · cases outcome with
    | applied => exact Follows.pure _ fun _ known => known
    | tolerated errno => exact Follows.pure _ fun _ known => known

/-- **Run.** The bits are dropped in order. -/
theorem dropBoundingSet_follows (tolerance : Tolerance)
    (listed : ∀ bit, plan.tolerated (.dropBounding bit) = tolerance.errnos) :
    plan.Follows ((List.range CapSet.width).map .dropBounding ++ rest)
      (fun process => process.caps = caps) (dropBoundingSet tolerance) rest
      (fun _ process => process.caps = caps) := by
  refine Triple.foldlM
    (fun (bits : List Nat) _ session => plan.Remaining
      (bits.map SimulatedCall.dropBounding ++ rest) (fun process => process.caps = caps)
      session.kernel) ?_ (List.range CapSet.width) 0
  intro bit bits refused
  exact dropBoundingBit_follows tolerance refused bit (listed bit)

/-- Clamping drops all bits and then clears the inheritable set. -/
theorem clampCaps_follows (operating : OperatingMode) (readFatal : plan.tolerated .readCaps = [])
    (writeFatal : ∀ sets, plan.tolerated (.writeCaps sets) = [])
    (listed : ∀ bit,
      plan.tolerated (.dropBounding bit) = (Policy.boundingDrop operating).errnos) :
    plan.Follows ((List.range CapSet.width).map .dropBounding ++
        .readCaps :: .writeCaps caps.clearInheritable :: rest)
      (fun process => process.caps = caps) (clampCaps operating) rest (fun _ _ => True) := by
  have recorded : ∀ {rest}, plan.Follows rest (fun process => process.caps = caps)
      recordBounding rest (fun _ process => process.caps = caps) := by
    unfold recordBounding
    exact Follows.bind (fun _ process => process.caps = caps)
      (Follows.observe fun _ known => known) fun _ =>
        Follows.bind _ Follows.recordingChecked fun _ => Follows.pure _ fun _ known => known
  have settled : plan.Follows (.readCaps :: .writeCaps caps.clearInheritable :: rest)
      (fun process => process.caps = caps) (do
        let bounding ← observe Kernel.boundingSet
        note .debug s!"Bounding set now: {bounding}"
        recordingChecked fun privileges => privileges.withBounding bounding
        clearInheritable) rest (fun _ _ => True) :=
    Follows.bind (fun _ process => process.caps = caps) (Follows.observe fun _ known => known)
      fun _ => Follows.noting <| Follows.bind _ Follows.recordingChecked fun _ =>
        clearInheritable_follows readFatal writeFatal
  unfold clampCaps
  refine Follows.bind _ recorded fun _ =>
    Follows.bind _ (dropBoundingSet_follows _ listed) fun refused => ?_
  by_cases some_refused : 0 < refused
  · simp only [some_refused, ↓reduceIte]
    exact Follows.noting settled
  · simp only [some_refused, ↓reduceIte]
    exact settled

/-- Switching the identity drops the groups, and changes the group and then the user. -/
theorem switchIdentity_follows (target : UserTarget) (process : SimulatedProcess)
    (listed : plan.tolerated .clearGroups = Policy.clearGroups.errnos)
    (gidFatal : plan.tolerated (.setGid target.gid) = [])
    (uidFatal : plan.tolerated (.setUid target.uid) = []) :
    plan.Follows (.clearGroups :: .setGid target.gid :: .setUid target.uid :: rest)
      (fun current => current = process) (switchIdentity target) rest
      (fun _ current => current.caps = process.capsAs target.uid) := by
  unfold switchIdentity
  refine Follows.bind (fun _ current => current.capsAs = process.capsAs)
    (Follows.tolerate rfl listed ?_ ?_) fun groups => ?_
  · intro current next known accepted
    subst known
    cases SimulatedProcess.clearGroups_ok accepted
    rfl
  · intro current errno known
    rw [known]
  refine Follows.bind _ (Follows.notes _) fun _ => ?_
  refine Follows.bind (fun _ current => current.capsAs = process.capsAs)
    (Follows.attempt rfl gidFatal ?_) fun _ => ?_
  · intro current next known accepted
    cases SimulatedProcess.setGid_ok accepted
    exact known
  refine Follows.bind (fun _ current => current.caps = process.capsAs target.uid)
    (Follows.attempt rfl uidFatal ?_) fun _ => ?_
  · intro current next known accepted
    cases SimulatedProcess.setUid_ok accepted
    exact congrFun known target.uid
  exact Follows.bind _ (Follows.recording fun _ known => known) fun _ =>
    Follows.note _ _ fun _ known => known

/-- Entering a user namespace makes the call for that, if there is one. -/
theorem enterUserNamespace_follows (target : UserTarget)
    (fatal : ∀ call ∈ target.namespaceCalls, plan.tolerated call = []) :
    plan.Follows (target.namespaceCalls ++ rest) (fun process => process.caps = caps)
      (enterUserNamespace target) rest
      (fun _ process => process.caps = target.capsInside caps) := by
  unfold enterUserNamespace UserTarget.capsInside
  unfold UserTarget.namespaceCalls at *
  cases joins : target.userNamespace with
  | some path =>
      simp only [joins] at fatal
      refine Follows.bind
        (fun _ process => process.caps =
          { caps with effective := CapSet.all, permitted := CapSet.all })
        (Follows.perform rfl (fatal _ List.mem_cons_self) ?_ ?_) fun _ =>
          Follows.recording fun _ known => known
      · intro process failure refused
        cases refused
      · intro process next known accepted
        subst known
        cases accepted
        rfl
  | none =>
      by_cases wanted : target.useUserNamespace = true
      · simp only [joins, wanted, ↓reduceIte] at fatal ⊢
        refine Follows.bind
          (fun _ process => process.caps =
            { caps with effective := CapSet.all, permitted := CapSet.all })
          (Follows.perform rfl (fatal _ List.mem_cons_self) ?_ ?_) fun _ =>
            Follows.recording fun _ known => known
        · intro process failure refused
          cases refused
        · intro process next known accepted
          subst known
          cases accepted
          rfl
      · simp only [wanted, Bool.false_eq_true, ↓reduceIte]
        exact Follows.pure _ fun _ known => known

end Isolating

namespace IsolationStep

open CallPlan Isolating

/-- The plan of a step from a kernel on. -/
def plan (step : IsolationStep) (kernel : SimulatedKernel) : CallPlan :=
  ⟨kernel, step.script kernel.process, step.tolerated⟩

/-- How a step ends after its calls: with all of its script passed, with arguments that do not say
which descriptor to keep, with a last call whose refusal the failure tells of, or with a broken
protocol. -/
inductive Ended (step : IsolationStep) (process : SimulatedProcess) :
    List (SimulatedCall × CallAnswer) → Except Fault Unit → Prop
  | completed {calls} (whole : calls.map Prod.fst = step.script process)
      (passed : ∀ made ∈ calls, Passes step.tolerated made) : Ended step process calls (.ok ())
  | unreadable {arguments reason} (same : step = .initial arguments)
      (unread : Descriptor.designated arguments = .error reason) :
      Ended step process [] (.error (.failed (.configuration reason)))
  | refused {front call errno failure} (passed : ∀ made ∈ front, Passes step.tolerated made)
      (fatal : errno ∉ step.tolerated call) (told : failure.errno? = some errno) :
      Ended step process (front ++ [(call, .error (some errno))]) (.error (.failed failure))
  | violated {calls violation} (passed : ∀ made ∈ calls, Passes step.tolerated made) :
      Ended step process calls (.error (.violated violation))

/-- The initial step sweeps and then restricts. -/
theorem initial_follows {arguments : List String} {keep : Option Int32} (kernel : SimulatedKernel)
    (named : Descriptor.designated arguments = .ok keep) :
    ((IsolationStep.initial arguments).plan kernel).Follows
      ((IsolationStep.initial arguments).script kernel.process)
      (fun process => process = kernel.process) (Isolating.initial arguments) []
      (fun _ _ => True) := by
  unfold script Isolating.initial
  simp only [named]
  refine Follows.bind _ (requireStage_follows _ _) fun _ => ?_
  refine Follows.bind (fun _ process => process = kernel.process.closeDescriptors keep)
    (Follows.perform rfl rfl ?_ ?_) fun _ => ?_
  · intro process failure refused
    cases refused
  · intro process next known accepted
    subst known
    cases accepted
    rfl
  refine Follows.bind (fun _ process => process = kernel.process.closeDescriptors keep)
    (Follows.recording fun _ known => known) fun _ => Follows.reading fun session known => ?_
  refine Follows.bind
    (fun inInitial process => inInitial = kernel.process.inInitialUserNamespace ∧
      process.caps = kernel.process.caps) (Follows.observe ?_) fun inInitial => ?_
  · intro process known
    subst known
    exact ⟨rfl, rfl⟩
  refine Follows.knowing fun process facts => ?_
  have sameUid : Kernel.effectiveUid session.toMachine = kernel.process.effectiveUid := by
    change session.kernel.process.effectiveUid = kernel.process.effectiveUid
    rw [known]
    rfl
  rw [sameUid, facts.1]
  exact Follows.bind _
    ((restrictCaps_follows _ rfl fun _ => rfl).assuming fun _ facts => facts.2) fun _ =>
      finish_follows

/-- No refusal to enter a user namespace is passed over. -/
theorem tolerated_namespaceCalls (target : UserTarget) :
    ∀ call ∈ target.namespaceCalls, (IsolationStep.user target).tolerated call = [] := by
  intro call member
  unfold UserTarget.namespaceCalls at member
  split at member
  · cases List.mem_singleton.mp member
    rfl
  · split at member
    · cases List.mem_singleton.mp member
      rfl
    · cases member

/-- The user step passes over the refusals of drops that clamping passes over. -/
theorem tolerated_dropBounding (target : UserTarget) (bit : Nat) :
    (IsolationStep.user target).tolerated (.dropBounding bit) =
      (Policy.boundingDrop target.operating).errnos := by
  unfold Policy.boundingDrop tolerated
  by_cases restricted : target.operating.isRestricted = true
  · rw [if_pos restricted]
    exact if_pos restricted
  · rw [if_neg restricted]
    exact if_neg restricted

/-- The user step switches the identity, enters the user namespace and clamps. -/
theorem user_follows (target : UserTarget) (kernel : SimulatedKernel) :
    ((IsolationStep.user target).plan kernel).Follows
      ((IsolationStep.user target).script kernel.process)
      (fun process => process = kernel.process) (Isolating.user target) [] (fun _ _ => True) := by
  unfold script Isolating.user
  simp only [List.append_assoc, List.cons_append, List.nil_append]
  refine Follows.bind _ (requireStage_follows _ _) fun _ => ?_
  refine Follows.bind _ (switchIdentity_follows target kernel.process rfl rfl rfl) fun _ => ?_
  refine Follows.bind _
    (enterUserNamespace_follows target (tolerated_namespaceCalls target)) fun _ => ?_
  exact Follows.bind _
    (clampCaps_follows target.operating rfl (fun _ => rfl) (tolerated_dropBounding target))
    fun _ => finish_follows

/-- The prefork step leaves namespaces and the filesystem behind and then restricts. -/
theorem prefork_follows (context : IsolationContext) (kernel : SimulatedKernel) :
    ((IsolationStep.prefork context).plan kernel).Follows
      ((IsolationStep.prefork context).script kernel.process)
      (fun process => process = kernel.process) (Isolating.prefork context) []
      (fun _ _ => True) := by
  unfold script Isolating.prefork
  refine Follows.bind _ (requireStage_follows _ _) fun _ => ?_
  refine Follows.bind (fun _ process => process.caps = kernel.process.caps)
    (Follows.perform rfl rfl (fun _ _ => SimulatedProcess.unshare_error) ?_) fun _ => ?_
  · intro process next known accepted
    subst known
    cases SimulatedProcess.unshare_ok accepted
    rfl
  refine Follows.bind (fun _ process => process.caps = kernel.process.caps)
    (Follows.recording fun _ known => known) fun _ => ?_
  refine Follows.bind (fun _ process => process.caps = kernel.process.caps)
    (Follows.perform rfl rfl (fun _ _ => SimulatedProcess.isolateFilesystem_error) ?_) fun _ => ?_
  · intro process next known accepted
    cases SimulatedProcess.isolateFilesystem_ok accepted
    exact known
  refine Follows.bind (fun _ process => process.caps = kernel.process.caps)
    (Follows.recording fun _ known => known) fun _ => ?_
  exact Follows.bind _ (restrictCaps_follows _ rfl fun _ => rfl) fun _ => finish_follows

/-- The postfork step disables core dumps and installs the filter. -/
theorem postfork_follows (context : IsolationContext) (kernel : SimulatedKernel) :
    ((IsolationStep.postfork context).plan kernel).Follows
      ((IsolationStep.postfork context).script kernel.process)
      (fun process => process = kernel.process) (Isolating.postfork context) []
      (fun _ _ => True) := by
  unfold script Isolating.postfork
  refine Follows.bind _ (requireStage_follows _ _) fun _ => ?_
  refine Follows.bind (fun _ _ => True) (Follows.perform rfl rfl ?_ fun _ _ _ _ => trivial)
    fun _ => ?_
  · intro process failure refused
    cases refused
  refine Follows.bind (fun _ _ => True) (Follows.recording fun _ known => known) fun _ => ?_
  refine Follows.bind (fun _ _ => True) (Follows.perform rfl rfl ?_ fun _ _ _ _ => trivial)
    fun _ => ?_
  · intro process failure refused
    rw [SimulatedProcess.installFilter_ofMode] at refused
    cases refused
  exact Follows.bind (fun _ _ => True) (Follows.recording fun _ known => known) fun _ =>
    finish_follows

/-- Every step whose arguments can be read follows its script. -/
theorem take_follows (step : IsolationStep) (kernel : SimulatedKernel)
    (readable : ∀ arguments reason, step = .initial arguments →
      Descriptor.designated arguments ≠ .error reason) :
    (step.plan kernel).Follows (step.script kernel.process)
      (fun process => process = kernel.process) step.take [] (fun _ _ => True) := by
  cases step with
  | initial arguments =>
      cases named : Descriptor.designated arguments with
      | ok keep => exact initial_follows kernel named
      | error reason => exact absurd named (readable arguments reason rfl)
  | user target => exact user_follows target kernel
  | prefork context => exact prefork_follows context kernel
  | postfork context => exact postfork_follows context kernel

/-- Arguments that cannot be read fail the initial step before it does anything. -/
theorem take_unreadable {arguments : List String} {reason : ConfigReason}
    (unread : Descriptor.designated arguments = .error reason)
    (session : Session SimulatedKernel) (expected : session.privileges.stage = .startup) :
    (IsolationStep.initial arguments).take session =
      .error (.failed (.configuration reason)) session := by
  refine (bind_of_ok (requireStage_ok _ expected)).trans ?_
  simp only [unread]
  rfl

/-- What following the script says of the calls made. -/
theorem take_ended (step : IsolationStep) (session : Session SimulatedKernel)
    (readable : ∀ arguments reason, step = .initial arguments →
      Descriptor.designated arguments ≠ .error reason) :
    ∃ calls, session.kernel.Makes calls (step.take.reached session).kernel ∧
      calls.map Prod.fst <+: step.script session.kernel.process ∧
      step.Ended session.kernel.process calls (step.take.ending session) := by
  have outcome := Isolating.Triple.ending_reached (step.take_follows session.kernel readable)
    session (Remaining.start (step.plan session.kernel) rfl)
  cases ended : step.take.ending session with
  | ok value =>
      rw [ended] at outcome
      obtain ⟨calls, made, whole, passed, _⟩ := outcome
      rw [List.append_nil] at whole
      exact ⟨calls, made, ⟨[], by rw [whole, List.append_nil]; rfl⟩, .completed whole passed⟩
  | error fault =>
      rw [ended] at outcome
      cases fault with
      | failed failure =>
          obtain ⟨front, call, errno, made, front_part, passed, fatal, told⟩ := outcome
          refine ⟨_, made, ?_, .refused passed fatal told⟩
          rw [List.map_append]
          exact front_part
      | violated violation =>
          obtain ⟨calls, made, front_part, passed⟩ := outcome
          exact ⟨calls, made, front_part, .violated passed⟩

/-- Arguments that cannot be read let the initial step make no calls. -/
theorem take_silent {arguments : List String} {reason : ConfigReason}
    (unread : Descriptor.designated arguments = .error reason)
    (session : Session SimulatedKernel) :
    (IsolationStep.initial arguments).take.reached session = session ∧
      (IsolationStep.initial arguments).Ended session.kernel.process []
        ((IsolationStep.initial arguments).take.ending session) := by
  unfold ending reached
  by_cases expected : session.privileges.stage = .startup
  · rw [take_unreadable unread session expected]
    exact ⟨rfl, .unreadable rfl unread⟩
  · rw [(IsolationStep.initial arguments).take_elsewhere session expected]
    exact ⟨rfl, .violated fun _ member => absurd member List.not_mem_nil⟩

/-- **Script.** A step makes calls in the order of its script and no others. It ends well when all
were passed, and it fails with the first refusal that it does not pass over. In a run that started
with an empty record, a step taken in order ends in one of these two ways. -/
theorem take_scripted (step : IsolationStep) (session : Session SimulatedKernel) :
    (∃ calls, session.kernel.Makes calls (step.take.reached session).kernel ∧
      (step.take.reached session).kernel.journal =
        session.kernel.journal ++ calls.map Prod.fst ∧
      calls.map Prod.fst <+: step.script session.kernel.process ∧
      step.Ended session.kernel.process calls (step.take.ending session)) ∧
    (∀ arguments reason, step = .initial arguments →
      Descriptor.designated arguments = .error reason → session.privileges.stage = .startup →
      step.take session = .error (.failed (.configuration reason)) session ∧
        (Failure.configuration reason).errno? = none) ∧
    ∀ start history, Session.Run start history session → start.privileges = .start →
      session.privileges.stage = step.stage →
      step.take.ending session = .ok () ∨
        ∃ failure, step.take.ending session = .error (.failed failure) := by
  refine ⟨?_, ?_, ?_⟩
  · by_cases unreadable : ∃ arguments reason, step = .initial arguments ∧
        Descriptor.designated arguments = .error reason
    · obtain ⟨arguments, reason, rfl, unread⟩ := unreadable
      obtain ⟨unchanged, ended⟩ := take_silent unread session
      refine ⟨[], ?_, ?_, List.nil_prefix, ended⟩
      · rw [unchanged]
        exact .nothing
      · rw [unchanged]
        exact (List.append_nil _).symm
    · obtain ⟨calls, made, front_part, ended⟩ := step.take_ended session
        fun arguments reason same unread => unreadable ⟨arguments, reason, same, unread⟩
      exact ⟨calls, made, made.journal, front_part, ended⟩
  · intro arguments reason same unread expected
    subst same
    exact ⟨take_unreadable unread session expected, rfl⟩
  · intro start history run fresh expected
    rcases step.take_attained (run.attained fresh) expected with ⟨ended, _⟩ | ⟨failure, ended, _⟩
    · exact .inl ended
    · exact .inr ⟨failure, ended⟩

/-- Arguments that do not say which descriptor to keep make no call. Where a system refuses to clear
the groups and to change the group identity, the user step passes over the first refusal and gives
up at the second. -/
theorem take_scripted_stopped :
    (IsolationStep.initial ["--fd", "x"]).take Session.superuser =
      .error (.failed (.configuration (.invalidDescriptor "x"))) Session.superuser ∧
    let step : IsolationStep := .user ⟨1000, 1000, false, none, ⟨.passt, false⟩⟩
    let session : Session SimulatedKernel := {
      kernel := (SimulatedKernel.root.fail .clearGroups .eperm).fail .setGid .eperm
      privileges := { stage := .initial } }
    SimulatedKernel.submit .clearGroups session.kernel =
        .error (some .eperm) (session.kernel.enter .clearGroups) ∧
      ∃ calls, session.kernel.Makes calls (step.take.reached session).kernel ∧
        calls.map Prod.fst = [.clearGroups, .setGid 1000] ∧
        calls.map Prod.fst <+: step.script session.kernel.process ∧
        step.Ended session.kernel.process calls
          (.error (.failed (.call (.setGid 1000) .eperm))) := by
  constructor
  · have unread : Descriptor.designated ["--fd", "x"] = .error (.invalidDescriptor "x") := by rfl
    obtain ⟨-, unreadable, -⟩ :=
      (IsolationStep.initial ["--fd", "x"]).take_scripted Session.superuser
    exact (unreadable _ _ rfl unread rfl).left
  · intro step session
    have refused : SimulatedKernel.submit .clearGroups session.kernel =
        .error (some .eperm) (session.kernel.enter .clearGroups) := by rfl
    have stopped : step.take.ending session = .error (.failed (.call (.setGid 1000) .eperm)) := by
      rfl
    have journal : (step.take.reached session).kernel.journal = [.clearGroups, .setGid 1000] := by
      rfl
    obtain ⟨⟨calls, made, journaled, front, ended⟩, -⟩ := step.take_scripted session
    rw [stopped] at ended
    exact ⟨refused, calls, made, journaled.symm.trans journal, front, ended⟩

end IsolationStep

end SelfIsolation
