import SelfIsolation.Proofs.Lifecycle.Run

/-! # What every run guarantees

Three guarantees hold of every run that starts with an empty record, whatever fails
on the way and however often a step is taken again. The stages are passed in their
order (`SelfIsolation.Session.Run.protocol`), the record tells the truth about the
process (`SelfIsolation.Session.Run.faithful`), and a run that reaches the last stage
has given up everything that its steps are for
(`SelfIsolation.Session.Run.failClosed`).
-/

namespace SelfIsolation

open Standing

/-- A step is refused at all stages but its own, where it either completes the next stage or fails
at the same one. -/
structure IsolationStep.Disciplined (step : IsolationStep) (session : Session SimulatedKernel) :
    Prop where
  elsewhere : session.privileges.stage ≠ step.stage →
    step.take session =
      .error (.violated (.outOfOrder step.title session.privileges.stage step.stage)) session
  unbroken : session.privileges.stage = step.stage →
    ∀ violation, step.take.ending session ≠ .error (.violated violation)
  completes : session.privileges.stage = step.stage →
    (step.take.ending session = .ok () ↔
      (step.take.reached session).privileges.stage.index = session.privileges.stage.index + 1)
  fails : session.privileges.stage = step.stage →
    ((∃ failure, step.take.ending session = .error (.failed failure)) ↔
      (step.take.reached session).privileges.stage = session.privileges.stage)

/-- The record claims no more than the process gave up, and from the second step on it knows the
capabilities exactly. -/
structure Session.Faithful (session : Session SimulatedKernel) : Prop where
  filesystem : session.privileges.filesystemVisible = session.kernel.process.filesystemVisible
  dumpable : session.privileges.dumpable = session.kernel.process.dumpable
  filter : session.privileges.filter = session.kernel.process.filter
  userNamespace : ∀ path, session.privileges.userNamespace = .joined path ↔
    session.kernel.process.userNamespace = some path
  namespaces : ∀ kind, session.privileges.namespaces.contains kind = true →
    session.kernel.process.unshared.contains kind = true
  groups : session.privileges.groupsCleared = true → session.kernel.process.groups = []
  caps : ∀ sets, session.privileges.caps = some sets →
    session.kernel.process.caps.effective ⊆ sets.effective ∧
    session.kernel.process.caps.permitted ⊆ sets.permitted ∧
    session.kernel.process.caps.inheritable = sets.inheritable
  bounding : ∀ set, session.privileges.bounding = some set →
    session.kernel.process.bounding ⊆ set
  exact : Stage.userSwitched.index ≤ session.privileges.stage.index →
    session.privileges.caps = some session.kernel.process.caps ∧
    session.privileges.bounding = some session.kernel.process.bounding

/-- Everything that a prefork step for one context and a postfork step for another are to give up
is given up. -/
structure Session.FailClosed (confining sealing : IsolationContext)
    (session : Session SimulatedKernel) : Prop where
  descriptors : ∀ descriptor ∈ session.kernel.process.descriptors,
    descriptor ≤ 2 ∨ session.privileges.designated = some descriptor
  effective : session.kernel.process.caps.effective ⊆ session.kernel.process.caps.permitted
  permitted : session.kernel.process.caps.permitted ⊆ Policy.runtimeKeep confining.operating
  inheritable : session.kernel.process.caps.inheritable = ∅
  mount : session.kernel.process.unshared.mount = true
  ipc : session.kernel.process.unshared.ipc = true
  uts : session.kernel.process.unshared.uts = true
  pid : ¬ (confining.operating.isPasta = true ∧ confining.foreground = true) →
    session.kernel.process.unshared.pid = true
  filesystem : session.kernel.process.filesystemVisible = false
  dumpable : session.kernel.process.dumpable = false
  filter : session.kernel.process.filter = some (.ofMode sealing.operating.mode)

/-- A process as it is started: what the record can tell has not been given up yet. -/
structure SimulatedProcess.Pristine (process : SimulatedProcess) : Prop where
  filesystem : process.filesystemVisible = true
  dumpable : process.dumpable = true
  filter : process.filter = none
  userNamespace : process.userNamespace = none

theorem Stage.index_injective {left right : Stage} (same : left.index = right.index) :
    left = right := by
  cases left <;> cases right <;> first | rfl | cases same

/-- Only a user namespace that was joined has a path. -/
theorem UserNamespace.path_none_eq_some {userNamespace : UserNamespace} {path : String} :
    userNamespace.path none = some path ↔ userNamespace = .joined path := by
  cases userNamespace <;> simp [UserNamespace.path]

variable {start session : Session SimulatedKernel} {done : List IsolationStep}
  {history : List (IsolationStep × Except Fault Unit)}

namespace Session.Attained

/-- The stage counts the completed steps. -/
theorem index_eq (attained : start.Attained session done) :
    session.privileges.stage.index = done.length := by
  have counted := congrArg List.length (SelfIsolation.Attained.stages attained)
  rw [List.length_map, List.length_take] at counted
  have bound : session.privileges.stage.index ≤ Stage.all.length := by
    cases session.privileges.stage <;> decide
  omega

/-- Sessions that a run has attained are disciplined. -/
theorem disciplined (attained : start.Attained session done) (step : IsolationStep) :
    step.Disciplined session where
  elsewhere := step.take_elsewhere session
  unbroken := by
    intro expected violation broken
    rcases step.take_attained attained expected with ⟨ended, _⟩ | ⟨failure, ended, _⟩
    · cases ended.symm.trans broken
    · cases ended.symm.trans broken
  completes := by
    intro expected
    rcases step.take_attained attained expected with ⟨ended, next⟩ | ⟨failure, ended, same⟩
    · refine ⟨fun _ => ?_, fun _ => ended⟩
      rw [next.index_eq, attained.index_eq, List.length_append, List.length_singleton]
    · refine ⟨fun completed => ?_, fun advanced => ?_⟩
      · cases completed.symm.trans ended
      · rw [same.index_eq, attained.index_eq] at advanced
        omega
  fails := by
    intro expected
    rcases step.take_attained attained expected with ⟨ended, next⟩ | ⟨failure, ended, same⟩
    · refine ⟨fun failed => ?_, fun stayed => ?_⟩
      · obtain ⟨failure, failed⟩ := failed
        cases failed.symm.trans ended
      · have counted := next.index_eq
        rw [stayed, attained.index_eq, List.length_append, List.length_singleton] at counted
        omega
    · refine ⟨fun _ => ?_, fun _ => ⟨failure, ended⟩⟩
      apply Stage.index_injective
      rw [same.index_eq, attained.index_eq]

/-- From the second step on the capabilities are known. -/
theorem known (attained : start.Attained session done)
    (late : Stage.userSwitched.index ≤ session.privileges.stage.index) :
    Stripped session.privileges session.kernel.process := by
  cases attained with
  | startup standing =>
      rw [standing.stage] at late
      cases late
  | initial _ standing =>
      rw [standing.stage] at late
      cases late with
      | step late => cases late
  | user _ _ standing => exact standing.kept
  | prefork _ _ _ standing => exact standing.kept.toSecluded.toStripped
  | postfork _ _ _ _ standing => exact standing.kept.toSecluded.toStripped

/-- The record of a session that a run has attained is faithful. -/
theorem record_faithful (attained : start.Attained session done)
    (pristine : start.kernel.process.Pristine) : session.Faithful := by
  have accounts := SelfIsolation.Attained.accounts attained
  constructor
  case filesystem => rw [accounts.filesystem, pristine.filesystem, Bool.and_true]
  case dumpable => rw [accounts.dumpable, pristine.dumpable, Bool.and_true]
  case filter => rw [accounts.filter, pristine.filter, Option.or_none]
  case userNamespace =>
    intro path
    rw [accounts.userNamespace, pristine.userNamespace, UserNamespace.path_none_eq_some]
  case namespaces => exact accounts.namespaces
  case groups => exact accounts.groups
  case caps =>
    intro sets recorded
    have covers := accounts.caps sets recorded
    exact ⟨covers.effective, covers.permitted, covers.inheritable⟩
  case bounding => exact accounts.bounding
  case exact => exact fun late => ⟨(attained.known late).caps, (attained.known late).bounding⟩

end Session.Attained

/-- What a sealed process has given up. -/
theorem Session.failClosed_of_sealed {confining sealing : IsolationContext}
    (standing : At .postforkIsolated start.kernel.process (Sealed confining sealing)
      session.privileges session.kernel.process) :
    session.FailClosed confining sealing := by
  have kept := standing.kept
  have accounts := standing.accounts
  have unshared : ∀ kind, confining.preforkNamespaces.contains kind = true →
      session.kernel.process.unshared.contains kind = true := by
    intro kind member
    rw [← kept.namespaces] at member
    exact accounts.namespaces kind member
  constructor
  case descriptors => exact kept.swept
  case effective => exact kept.effective
  case permitted => exact kept.permitted
  case inheritable => exact kept.inheritable
  case mount => exact unshared .mount rfl
  case ipc => exact unshared .ipc rfl
  case uts => exact unshared .uts rfl
  case pid =>
    intro background
    apply unshared .pid
    change (!(confining.operating.isPasta && confining.foreground)) = true
    rw [Bool.not_eq_true', ← Bool.not_eq_true, Bool.and_eq_true]
    exact background
  case filesystem => rw [accounts.filesystem, kept.filesystem, Bool.false_and]
  case dumpable => rw [accounts.dumpable, kept.dumpable, Bool.false_and]
  case filter =>
    rw [accounts.filter, kept.filter]
    rfl

namespace Session.Run

/-- **Stage protocol.** A step taken out of order is refused and changes nothing; one taken in
order never breaks the protocol, and it completes its stage or fails at it. So the steps that
completed are the first ones of the protocol, each once. -/
theorem protocol (run : start.Run history session) (fresh : start.privileges = .start) :
    (∀ step : IsolationStep, step.Disciplined session) ∧
      (completed history).map IsolationStep.stage =
        Stage.all.take session.privileges.stage.index ∧
      ((completed history).map IsolationStep.stage).Nodup := by
  have attained := run.attained fresh
  have stages := SelfIsolation.Attained.stages attained
  refine ⟨attained.disciplined, stages, ?_⟩
  rw [stages]
  have distinct : Stage.all.Nodup := by decide
  exact distinct.sublist (List.take_sublist _ _)

/-- The superuser has taken the initial step and may take the user step. -/
theorem protocol_root : ∃ history session,
    Session.superuser.Run history session ∧
      session.privileges.stage = .initial ∧
      (∀ step : IsolationStep, step.Disciplined session) ∧
      (completed history).map IsolationStep.stage =
        Stage.all.take session.privileges.stage.index ∧
      ((completed history).map IsolationStep.stage).Nodup := by
  -- The first step fails, and succeeds when it is taken again.
  have begun : Session.superuser.Run [] _ := .start
  have run := (((begun.fail .writeCaps .eperm).call (.initial [])).clearFailure .writeCaps).call
    (.initial ["--fd", "5"])
  exact ⟨_, _, run, by decide +kernel, protocol run rfl⟩

/-- **Faithful record.** However far a run came, its record claims no more than the process gave
up, and it knows the capabilities exactly once the second step is done. -/
theorem faithful (run : start.Run history session) (fresh : start.privileges = .start)
    (pristine : start.kernel.process.Pristine) : session.Faithful :=
  (run.attained fresh).record_faithful pristine

/-- The superuser has become someone else, and the record is faithful. -/
theorem faithful_root : ∃ history session,
    Session.superuser.Run history session ∧
      session.privileges.stage = .userSwitched ∧ session.Faithful := by
  have begun : Session.superuser.Run [] _ := .start
  have run := (begun.call (.initial [])).call (.user ⟨1000, 1000, true, none, ⟨.pasta, false⟩⟩)
  exact ⟨_, _, run, by decide +kernel, faithful run rfl ⟨rfl, rfl, rfl, rfl⟩⟩

/-- **Fail-closed lifecycle.** A run that reaches the last stage completed each step once, and
everything that these steps are for is given up. -/
theorem failClosed (run : start.Run history session) (fresh : start.privileges = .start)
    (reached : session.privileges.stage = .postforkIsolated) :
    ∃ arguments target confining sealing,
      completed history =
        [.initial arguments, .user target, .prefork confining, .postfork sealing] ∧
      session.FailClosed confining sealing := by
  have attained := run.attained fresh
  unfold Session.Attained at attained
  generalize whole : completed history = done at attained
  cases attained
  case postfork arguments target confining sealing standing =>
    exact ⟨arguments, target, confining, sealing, rfl, failClosed_of_sealed standing⟩
  all_goals
    rename_i standing
    cases standing.stage.symm.trans reached

/-- Before the last step a run can be completed, if no failures are asked for. -/
theorem completable (run : start.Run history session) (context : IsolationContext)
    (ready : session.privileges.stage = .preforkIsolated ∧
      session.kernel.failure .disableCoreDumps = none ∧
      session.kernel.failure .installFilter = none) :
    ∃ history last, start.Run history last ∧ last.privileges.stage = .postforkIsolated := by
  obtain ⟨_, _, reached⟩ := (Isolating.postfork_completes context).ends session ready
  exact ⟨_, _, run.call (.postfork context), reached⟩

/-- The superuser has taken all steps, and is closed in. -/
theorem failClosed_root : ∃ history session,
    Session.superuser.Run history session ∧
      session.privileges.stage = .postforkIsolated ∧
      ∃ arguments target confining sealing,
        completed history =
          [.initial arguments, .user target, .prefork confining, .postfork sealing] ∧
        session.FailClosed confining sealing := by
  have begun : Session.superuser.Run [] _ := .start
  have run := ((begun.call (.initial ["--fd", "5"])).call
    (.user ⟨1000, 1000, true, none, ⟨.pasta, false⟩⟩)).call
    (.prefork { operating := ⟨.pasta, false⟩ })
  obtain ⟨history, session, run, reached⟩ :=
    run.completable { operating := ⟨.passt, false⟩ } (by decide +kernel)
  exact ⟨history, session, run, reached, failClosed run rfl reached⟩

end Session.Run

end SelfIsolation
