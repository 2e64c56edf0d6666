import SelfIsolation.Proofs.Host.Narrowing

/-! # The steps on their courses

Each of the four steps follows its course from every session at its stage
(`SelfIsolation.Course.take_follows`). Where it ends well it achieves what it
is for (`SelfIsolation.IsolationStep.Achieves`), and where it stops the stage and
what earlier steps achieved are as they were (`SelfIsolation.IsolationStep.Keeps`).
Only the second step can break the protocol, and on a new record only after a
reading of the bounding set failed (`SelfIsolation.IsolationStep.Breaks`).
-/

namespace SelfIsolation

open Isolating

namespace IsolationStep

/-- What a step leaves of the earlier ones, also where it stops. -/
def Keeps (step : IsolationStep) (start system : System) : Prop :=
  match step with
  | .initial _ | .user _ => True
  | .prefork _ => system.bounding = start.bounding ∧
      system.caps.toSets.inheritable = start.caps.toSets.inheritable
  | .postfork _ => system.bounding = start.bounding ∧ system.caps = start.caps

/-- The record has no bounding set yet and knows the capability sets. -/
def Known (session : Session Host) : Prop :=
  session.privileges.bounding = none ∧
    session.privileges.caps = some session.kernel.system.caps.toSets

/-- What has to be the case where a step breaks the protocol. -/
def Breaks (step : IsolationStep) (session : Session Host) (system : System)
    (made : List CallEvent) : Prop :=
  match step with
  | .user _ => Known session → Misread system made
  | _ => True

/-- The course of a step from a session. -/
def course (step : IsolationStep) (session : Session Host) : Course where
  step := step
  first := session.kernel.trace
  directories := session.kernel.system.directories
  failing := fun record system =>
    record.stage = step.stage ∧ step.Keeps session.kernel.system system
  violating := fun record system made =>
    (record.stage = step.stage ∧ step.Keeps session.kernel.system system) ∧
      step.Breaks session system made

/-- Descriptors are closed, and the record knows the capability sets. -/
structure Begun (arguments : List String) (session : Session Host) (record : PrivilegeRecord)
    (system : System) (made : List CallEvent) : Prop where
  stage : record.stage = .initial
  bounding : record.bounding = session.privileges.bounding
  caps : record.caps = some system.caps.toSets
  walked : ∀ keep, Descriptor.designated arguments = .ok keep →
    Course.Walked keep session.kernel.system made

/-- The capability sets are down to what is needed at run time. -/
structure Trimmed (context : IsolationContext) (system : System) : Prop where
  effective : system.caps.toSets.effective ⊆ Policy.runtimeKeep context.operating
  permitted : system.caps.toSets.permitted ⊆ Policy.runtimeKeep context.operating

/-- Dumps are off, and the newest filter is that of the mode. -/
structure Locked (context : IsolationContext) (system : System) : Prop where
  dumpable : system.dumpable = false
  coreLimit : system.coreLimit = (0, 0)
  noNewPrivileges : system.noNewPrivileges = true
  filter : ∃ program, (Filter.ofMode context.operating).compile = .ok program ∧
    system.filters.getLast? = some program

/-- What a step achieves where it ends well. -/
def Achieves (step : IsolationStep) (session : Session Host) : Position :=
  match step with
  | .initial arguments => Begun arguments session
  | .user target => fun record system made =>
      record.stage = .userSwitched ∧ Clamped target record system made
  | .prefork context => fun record system _ =>
      record.stage = .preforkIsolated ∧
        (IsolationStep.prefork context).Keeps session.kernel.system system ∧ Trimmed context system
  | .postfork context => fun record system _ =>
      record.stage = .postforkIsolated ∧
        (IsolationStep.postfork context).Keeps session.kernel.system system ∧ Locked context system

end IsolationStep

namespace Course

variable {course : Course} {record : PrivilegeRecord} {system : System} {made : List CallEvent}
  {after : Unit → Position}

/-- A step that is taken at its stage follows what comes after the check. -/
theorem Follows.atStage {expected : Stage} {title : String} {rest : Unit → Isolating Host Unit}
    (reached : record.stage = expected)
    (tail : course.Follows (.exactly record system made) (rest ()) after) :
    course.Follows (.exactly record system made) (requireStage expected title >>= rest) after := by
  refine Follows.bind (fun _ => .exactly record system made) ⟨fun session start => ?_⟩ fun _ => tail
  obtain ⟨made', traced, clear, same, rfl, rfl⟩ := start
  rw [requireStage_ok title (same ▸ reached)]
  exact ⟨_, traced, clear, same, rfl, rfl⟩

/-- Finishing a step leads to the next stage. -/
theorem finish_follows {next : Stage} (follows : record.stage.next? = some next)
    (completed : after () { record with stage := next } system made) :
    course.Follows (.exactly record system made) finish after := by
  unfold finish
  refine Follows.bind (fun _ => .exactly { record with stage := next } system made)
    (Follows.recordingChecked ?_ ?_) fun _ => Follows.reading fun session =>
      Follows.note _ _ (Position.exactly_elim completed)
  · rintro _ changed _ _ ⟨rfl, rfl, rfl⟩ advanced
    simp only [PrivilegeRecord.advance, follows, Except.ok.injEq] at advanced
    exact ⟨advanced.symm, rfl, rfl⟩
  · rintro _ violation _ _ ⟨rfl, rfl, rfl⟩ refused
    simp only [PrivilegeRecord.advance, follows, reduceCtorEq] at refused

open IsolationStep

variable {session : Session Host}

/-- The map of identities need not be readable. -/
theorem inInitialUserNamespace_follows {arguments : List String} {keep : Option Int32}
    {rest : Bool → Isolating Host Unit} (step : course.step = .initial arguments)
    (walked : Walked keep system made)
    (tail : ∀ found made', Walked keep system made' →
      course.Follows (.exactly record system made') (rest found) after) :
    course.Follows (.exactly record system made)
      (observe Kernel.inInitialUserNamespace >>= rest) after := by
  refine Follows.asking (fun _ record' system' made' =>
    Position.exactly record system made' record' system' made' ∧ Walked keep system made')
    Host.inInitialUserNamespace_answers ?_ fun found => ?_
  · rintro _ _ _ _ _ ⟨rfl, rfl, rfl⟩ clear answer
    rcases answer with rfl | ⟨failure, rfl⟩
    · rw [List.append_nil]
      exact .inl ⟨clear, ⟨rfl, rfl, rfl⟩, walked⟩
    · refine .inl ⟨clear.next trivial fun _ _ => ?_, ⟨rfl, rfl, rfl⟩,
        walked.append fun _ _ _ same => nomatch same⟩
      rw [step]
      exact .identityMap
  · refine Follows.each ?_
    rintro _ _ made' ⟨⟨rfl, rfl, -⟩, walked⟩
    exact tail found made' walked

/-- **Initial step.** Descriptors are closed and capabilities narrowed. -/
theorem initial_follows (arguments : List String) (reached : session.privileges.stage = .startup) :
    ((IsolationStep.initial arguments).course session).Follows
      (.exactly session.privileges session.kernel.system []) (initial arguments)
      fun _ => Begun arguments session := by
  refine Follows.atStage reached ?_
  cases designated : Descriptor.designated arguments with
  | error reason => exact Follows.fail _ (Position.exactly_elim ⟨reached, trivial⟩)
  | ok keep =>
      let untouched := fun record system =>
        record = session.privileges ∧ system = session.kernel.system
      have closes : ((IsolationStep.initial arguments).course session).Follows
          (fun record system made => untouched record system ∧ made = [])
          (perform (Host.closeDescriptors keep))
          fun _ record system made => untouched record system ∧ Walked keep system made := by
        refine closeDescriptors_follows rfl ?_
        rintro _ _ ⟨rfl, -⟩
        exact ⟨reached, trivial⟩
      refine Follows.bind _ (closes.weaken ?_ fun _ _ _ _ holds => holds) fun _ => ?_
      · rintro _ _ _ ⟨rfl, rfl, rfl⟩
        exact ⟨⟨rfl, rfl⟩, rfl⟩
      refine Follows.each fun record system made closed => ?_
      obtain ⟨⟨rfl, rfl⟩, walked⟩ := closed
      refine Follows.recorded (Follows.reading fun read => ?_)
      refine inInitialUserNamespace_follows rfl walked fun found made' walked => ?_
      refine Follows.bind (fun _ record system made => Begun arguments session
        { record with stage := .initial } system made ∧ record.stage = .startup)
        (restrictCaps_follows ⟨reached, trivial⟩ ⟨⟨reached, trivial⟩, trivial⟩
          ⟨⟨rfl, rfl, ?_, ?_⟩, reached⟩) fun _ => ?_
      · dsimp only
        rw [CapRecords.toSets_ofSets]
      · intro kept same
        cases designated.symm.trans same
        refine (walked.append ?_).append ?_ <;> exact fun _ _ _ same => nomatch same
      · refine Follows.each fun record system made begun => ?_
        exact finish_follows (by rw [begun.2]; rfl) begun.1

/-- While an identity is taken on, the capability sets stay and the record knows no more. -/
structure Entering (session : Session Host) (record : PrivilegeRecord) (system : System)
    (made : List CallEvent) : Prop where
  stage : record.stage = .initial
  bounding : record.bounding = session.privileges.bounding
  caps : ∀ sets, record.caps = some sets → session.privileges.caps = some sets
  same : system.caps = session.kernel.system.caps

theorem Entering.lasts : Position.Lasts (Entering session) :=
  fun _ _ _ _ entering => { entering with }

section User

variable (target : UserTarget)

/-- The user step may fail anywhere before the bounding set is dropped. -/
theorem entering_stops (record : PrivilegeRecord) (system : System) (made : List CallEvent)
    (entering : Entering session record system made) :
    ((IsolationStep.user target).course session).failing record system :=
  ⟨entering.stage, trivial⟩

/-- Switching the identity stops at the first failure but that of the groups. -/
theorem switchIdentity_follows :
    ((IsolationStep.user target).course session).Follows (Entering session)
      (switchIdentity target) fun _ => Entering session := by
  unfold switchIdentity
  refine Follows.bind (fun _ => Entering session)
    (Follows.tolerate (entering_stops target) ?_ ?_) fun groups => ?_
  · rintro record system made _ _ entering ⟨⟩
    exact Entering.lasts _ _ _ _ entering
  · intro record system made code entering tolerated
    refine ⟨?_, Entering.lasts _ _ _ _ entering⟩
    have refused : Errno.ofCode code = .eperm :=
      List.mem_singleton.mp (of_decide_eq_true tolerated)
    rw [Errno.eq_of_ofCode refused (by decide)]
    exact .groups
  refine Follows.bind (fun _ => Entering session) (Follows.notes _) fun _ => ?_
  refine Follows.bind (fun _ => Entering session) (Follows.attempt (entering_stops target) ?_)
    fun _ => ?_
  · exact fun _ _ _ entering => { entering with }
  refine Follows.bind (fun _ => Entering session) (Follows.attempt (entering_stops target) ?_)
    fun _ => ?_
  · exact fun _ _ _ entering => { entering with }
  refine Follows.bind (fun _ => Entering session) (Follows.recording ?_)
    fun _ => Follows.note _ _ fun _ _ _ entering => entering
  exact fun _ _ _ entering => { entering with }

/-- In another user namespace capabilities are unknown. -/
theorem Entering.withUserNamespace {record : PrivilegeRecord} {system : System}
    {made : List CallEvent} (entering : Entering session record system made)
    (userNamespace : UserNamespace) :
    Entering session (record.withUserNamespace userNamespace) system made :=
  ⟨entering.stage, entering.bounding, fun _ => (nomatch ·), entering.same⟩

/-- Entering a user namespace stops at the first failure but those of its maps. -/
theorem enterUserNamespace_follows :
    ((IsolationStep.user target).course session).Follows (Entering session)
      (enterUserNamespace target) fun _ => Entering session := by
  unfold enterUserNamespace
  cases target.userNamespace with
  | some path =>
      exact Follows.bind (fun _ => Entering session)
        (joinUserNamespace_follows path Entering.lasts (entering_stops target))
        fun _ => Follows.recording fun _ _ _ entering => entering.withUserNamespace _
  | none =>
      dsimp only
      split
      case isTrue =>
          exact Follows.bind (fun _ => Entering session)
            (createUserNamespace_follows rfl _ _ Entering.lasts (entering_stops target))
            fun _ => Follows.recording fun _ _ _ entering => entering.withUserNamespace _
      case isFalse => exact Follows.pure _ fun _ _ _ entering => entering

/-- **User step.** The bounding set is emptied, as far as the mode lets refusals pass. -/
theorem user_follows (reached : session.privileges.stage = .initial) :
    ((IsolationStep.user target).course session).Follows
      (.exactly session.privileges session.kernel.system []) (user target)
      fun _ record system made =>
        record.stage = .userSwitched ∧ Clamped target record system made := by
  refine Follows.atStage reached ?_
  refine Follows.bind (fun _ => Entering session) ((switchIdentity_follows target).weaken ?_
    fun _ _ _ _ holds => holds) fun _ => ?_
  · rintro _ _ _ ⟨rfl, rfl, rfl⟩
    exact ⟨reached, rfl, fun _ known => known, rfl⟩
  refine Follows.bind _ (enterUserNamespace_follows target) fun _ => ?_
  refine Follows.each fun record system made entering => ?_
  refine Follows.bind (fun _ record system made => record.stage = .initial ∧
    Clamped target record system made)
    (clampCaps_follows rfl (Known session) ?_ ?_ ?_ ?_ ?_) fun _ => ?_
  · exact fun record' system' same => ⟨same.trans entering.stage, trivial⟩
  · exact fun record' system' made' same misread => ⟨⟨same.trans entering.stage, trivial⟩, misread⟩
  · intro known sets recorded
    rw [entering.same]
    exact Option.some.inj ((entering.caps sets recorded).symm.trans known.2)
  · exact fun record' system' made' same clamped => ⟨same.trans entering.stage, clamped⟩
  · exact fun known => entering.bounding.trans known.1
  · refine Follows.each fun record' system' made' clamped => ?_
    refine finish_follows (by rw [clamped.1]; rfl) ⟨rfl, ?_⟩
    exact { clamped.2 with }

end User

/-- Restricting the capability sets keeps what the prefork step keeps. -/
theorem keeps_restrict (context : IsolationContext) (start : System) (keep : CapSet) :
    (IsolationStep.prefork context).Keeps start
      { start with caps := .ofSets (start.caps.toSets.restrict keep) } := by
  refine ⟨rfl, ?_⟩
  dsimp only
  rw [CapRecords.toSets_ofSets]
  rfl

/-- **Prefork step.** Capabilities are down to what is needed at run time. -/
theorem prefork_follows (context : IsolationContext)
    (reached : session.privileges.stage = .userSwitched) :
    ((IsolationStep.prefork context).course session).Follows
      (.exactly session.privileges session.kernel.system []) (prefork context)
      fun _ => (IsolationStep.prefork context).Achieves session := by
  -- Until the capability sets are written, the system stays as it is.
  let still : Position := fun record system _ =>
    record.stage = .userSwitched ∧ system = session.kernel.system
  have lasts : still.Lasts := fun _ _ _ _ holds => holds
  have stops : ∀ record system made, still record system made →
      ((IsolationStep.prefork context).course session).failing record system := by
    rintro record _ made ⟨stage, rfl⟩
    exact ⟨stage, rfl, rfl⟩
  refine Follows.atStage reached ?_
  refine Follows.bind (fun _ => still) ((unshare_follows _ lasts stops).weaken ?_
    fun _ _ _ _ holds => holds) fun _ => ?_
  · rintro _ _ _ ⟨rfl, rfl, rfl⟩
    exact ⟨reached, rfl⟩
  refine Follows.bind (fun _ => still) (Follows.recording fun _ _ _ holds => holds) fun _ => ?_
  refine Follows.bind (fun _ => still) (isolateFilesystem_follows rfl lasts stops ?_) fun _ => ?_
  · rintro _ _ _ ⟨-, rfl⟩
    rfl
  refine Follows.bind (fun _ => still) (Follows.recording fun _ _ _ holds => holds) fun _ => ?_
  refine Follows.each ?_
  rintro record _ made ⟨stage, rfl⟩
  have keeps := keeps_restrict context session.kernel.system (Policy.runtimeKeep context.operating)
  refine Follows.bind (fun _ record system _ => record.stage = .userSwitched ∧
    (IsolationStep.prefork context).Keeps session.kernel.system system ∧ Trimmed context system)
    (restrictCaps_follows ⟨stage, rfl, rfl⟩ ⟨⟨stage, keeps⟩, trivial⟩ ⟨stage, keeps, ?_, ?_⟩)
    fun _ => ?_
  · dsimp only
    rw [CapRecords.toSets_ofSets]
    exact CapSet.inter_subset_right _ _
  · dsimp only
    rw [CapRecords.toSets_ofSets]
    exact CapSet.inter_subset_right _ _
  · refine Follows.each fun record system made trimmed => ?_
    exact finish_follows (by rw [trimmed.1]; rfl) ⟨rfl, trimmed.2⟩

/-- **Postfork step.** Dumps are off and the filter is loaded. -/
theorem postfork_follows (context : IsolationContext)
    (reached : session.privileges.stage = .preforkIsolated) :
    ((IsolationStep.postfork context).course session).Follows
      (.exactly session.privileges session.kernel.system []) (postfork context)
      fun _ => (IsolationStep.postfork context).Achieves session := by
  obtain ⟨program, compiled⟩ := Filter.compile_ofProfile (Filter.ofMode context.operating).profile
  let undumpable : Position := fun record system _ => record.stage = .preforkIsolated ∧
    (IsolationStep.postfork context).Keeps session.kernel.system system ∧
      system.dumpable = false ∧ system.coreLimit = (0, 0)
  refine Follows.atStage reached ?_
  refine Follows.bind (fun _ => undumpable) (disableCoreDumps_follows ?_ ?_) fun _ => ?_
  · rintro _ _ _ ⟨rfl, rfl, rfl⟩
    exact ⟨⟨reached, rfl, rfl⟩, reached, rfl, rfl⟩
  · rintro _ _ _ ⟨rfl, rfl, rfl⟩
    exact ⟨reached, ⟨rfl, rfl⟩, rfl, rfl⟩
  refine Follows.bind (fun _ => undumpable) (Follows.recording fun _ _ _ holds => holds)
    fun _ => ?_
  let sealing : Position := fun record system _ => record.stage = .preforkIsolated ∧
    (IsolationStep.postfork context).Keeps session.kernel.system system ∧ Locked context system
  refine Follows.bind (fun _ => sealing) (installFilter_follows compiled ?_ ?_) fun _ => ?_
  · rintro record system _ ⟨stage, keeps, -, -⟩
    exact ⟨⟨stage, keeps⟩, stage, keeps⟩
  · rintro record system _ ⟨stage, keeps, dumpable, coreLimit⟩
    exact ⟨stage, keeps, dumpable, coreLimit, rfl, program, compiled, List.getLast?_concat⟩
  refine Follows.bind (fun _ => sealing) (Follows.recording fun _ _ _ holds => holds) fun _ => ?_
  refine Follows.each fun record system made locked => ?_
  exact finish_follows (by rw [locked.1]; rfl) ⟨rfl, locked.2⟩

/-- Taken at its stage, a step achieves what it is for or stops on its course. -/
theorem take_follows (step : IsolationStep) (session : Session Host)
    (reached : session.privileges.stage = step.stage) :
    (step.course session).Follows (.exactly session.privileges session.kernel.system [])
      step.take fun _ => step.Achieves session := by
  cases step with
  | initial arguments => exact initial_follows arguments reached
  | user target => exact user_follows target reached
  | prefork context => exact prefork_follows context reached
  | postfork context => exact postfork_follows context reached

end Course

end SelfIsolation
