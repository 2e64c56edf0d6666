import SelfIsolation.Proofs.Host.FailStop

/-! # Runs of steps on a host

A run takes steps in any order and with any arguments on one host
(`SelfIsolation.Session.HostRun`). A step that ends well achieves what it is for, and
any other leaves what was achieved before (`SelfIsolation.Taking.ends`).
By induction the takings that ended well say where a run stands
(`SelfIsolation.Session.HostRun.led`), and one that has taken the postfork step to
its end has given up what the steps are for, in the system and not only in the record
(`SelfIsolation.Session.HostRun.surrendered`).
-/

namespace SelfIsolation

/-- The takings that ended well. -/
def succeeded (history : List Taking) : List Taking :=
  history.filter fun taking => taking.result = .ok ()

/-- The takings that succeeded are those before, and the last one if it ended well. -/
theorem succeeded_append (history : List Taking) (taking : Taking) :
    succeeded (history ++ [taking]) =
      if taking.result = .ok () then succeeded history ++ [taking] else succeeded history := by
  unfold succeeded
  rw [List.filter_append, List.filter_cons, List.filter_nil]
  by_cases well : taking.result = .ok ()
  · rw [if_pos well, if_pos (decide_eq_true well)]
  · rw [if_neg well, if_neg (well ∘ of_decide_eq_true), List.append_nil]

/-- A taking that ended well is among those that succeeded. -/
theorem mem_succeeded {history : List Taking} {taking : Taking} (well : taking.result = .ok ()) :
    taking ∈ succeeded (history ++ [taking]) := by
  rw [succeeded_append, if_pos well]
  exact List.mem_append_right _ (List.mem_singleton_self _)

/-- A run on a host: the steps taken from a session, first to last, and where they lead. -/
inductive Session.HostRun (start : Session Host) : List Taking → Session Host → Prop
  | start : HostRun start [] start
  | take {history session} (run : HostRun start history session) (step : IsolationStep) :
      HostRun start (history ++ [⟨step, session⟩]) (Taking.next ⟨step, session⟩)

/-- Nothing is inheritable, and the bits left in the bounding set are those whose drop was refused
when the step for the target was taken. -/
structure Emptied (target : UserTarget) (clamping : Session Host) (system : System) : Prop where
  inheritable : system.caps.toSets.inheritable = ∅
  bounding : ∀ bit, system.bounding.containsBit bit = true →
    RefusedDrop target (Taking.calls ⟨.user target, clamping⟩) bit

/-- Everything that the steps taken for a target and for two contexts are to give up is given
up. -/
structure Surrendered (target : UserTarget) (clamping : Session Host)
    (confining sealing : IsolationContext) (system : System) : Prop extends
  Emptied target clamping system, IsolationStep.Trimmed confining system,
  IsolationStep.Locked sealing system

variable {target : UserTarget} {clamping : Session Host} {system next : System}

/-- What was emptied stays so where the bounding and the inheritable set do. -/
theorem Emptied.keep (emptied : Emptied target clamping system)
    (bounding : next.bounding = system.bounding)
    (inheritable : next.caps.toSets.inheritable = system.caps.toSets.inheritable) :
    Emptied target clamping next := by
  refine ⟨inheritable.trans emptied.inheritable, fun bit left => emptied.bounding bit ?_⟩
  rwa [← bounding]

/-- What was trimmed stays so where the capability sets do. -/
theorem IsolationStep.Trimmed.keep {context : IsolationContext}
    (trimmed : IsolationStep.Trimmed context system) (caps : next.caps = system.caps) :
    IsolationStep.Trimmed context next := by
  refine ⟨?_, ?_⟩ <;> rw [caps]
  · exact trimmed.effective
  · exact trimmed.permitted

/-- **Step.** A step that ends well achieves what it is for, and any other stays at its stage and
keeps what was achieved before. -/
theorem Taking.ends (taking : Taking) (inOrder : taking.InOrder) :
    (taking.result = .ok () ∧ taking.step.Achieves taking.session
      taking.next.privileges taking.next.kernel.system taking.calls) ∨
    (taking.result ≠ .ok () ∧ taking.next.privileges.stage = taking.step.stage ∧
      taking.step.Keeps taking.session.kernel.system taking.next.kernel.system) := by
  obtain ⟨-, outcome⟩ := course_ends inOrder
  cases ended : taking.result with
  | ok value =>
      rw [ended] at outcome
      exact .inl ⟨rfl, outcome.2⟩
  | error fault =>
      rw [ended] at outcome
      refine .inr ⟨fun well => (by cases well), ?_⟩
      cases fault with
      | failed failure => exact outcome.2
      | violated violation => exact outcome.2.1

namespace Session

/-- Where the takings that ended well have led. -/
inductive Led : List Taking → Session Host → Prop
  | startup {session} (stage : session.privileges.stage = .startup) : Led [] session
  | initial {session} (arguments : List String) (first : Session Host)
      (stage : session.privileges.stage = .initial) :
      Led [⟨.initial arguments, first⟩] session
  | user {session} (arguments : List String) (target : UserTarget) (first second : Session Host)
      (emptied : Emptied target second session.kernel.system)
      (stage : session.privileges.stage = .userSwitched) :
      Led [⟨.initial arguments, first⟩, ⟨.user target, second⟩] session
  | prefork {session} (arguments : List String) (target : UserTarget)
      (confining : IsolationContext) (first second third : Session Host)
      (emptied : Emptied target second session.kernel.system)
      (trimmed : IsolationStep.Trimmed confining session.kernel.system)
      (stage : session.privileges.stage = .preforkIsolated) :
      Led [⟨.initial arguments, first⟩, ⟨.user target, second⟩, ⟨.prefork confining, third⟩]
        session
  | postfork {session} (arguments : List String) (target : UserTarget)
      (confining sealing : IsolationContext) (first second third fourth : Session Host)
      (surrendered : Surrendered target second confining sealing session.kernel.system)
      (stage : session.privileges.stage = .postforkIsolated) :
      Led [⟨.initial arguments, first⟩, ⟨.user target, second⟩, ⟨.prefork confining, third⟩,
        ⟨.postfork sealing, fourth⟩] session

variable {start session : Session Host} {done history : List Taking}

/-- Taken at its stage, a step leads on if it ends well, and the run stays where it is otherwise. -/
theorem Led.take (led : Led done session) (step : IsolationStep)
    (reached : session.privileges.stage = step.stage) :
    Led (if Taking.result ⟨step, session⟩ = .ok () then done ++ [⟨step, session⟩] else done)
      (Taking.next ⟨step, session⟩) := by
  have ends := Taking.ends ⟨step, session⟩ reached
  -- Each step meets only the stage it starts from; the others are ruled out.
  cases step with
  | initial arguments =>
      cases led
      case startup stage =>
        rcases ends with ⟨well, begun⟩ | ⟨failed, stage, -⟩
        · rw [if_pos well]
          exact .initial arguments session begun.stage
        · rw [if_neg failed]
          exact .startup stage
      all_goals
        rename_i stage
        cases stage.symm.trans reached
  | user target =>
      cases led
      case initial arguments first stage =>
        rcases ends with ⟨well, stage, clamped⟩ | ⟨failed, stage, -⟩
        · rw [if_pos well]
          exact .user arguments target first session ⟨clamped.inheritable, clamped.refused⟩ stage
        · rw [if_neg failed]
          exact .initial arguments first stage
      all_goals
        rename_i stage
        cases stage.symm.trans reached
  | prefork context =>
      cases led
      case user arguments target first second emptied stage =>
        rcases ends with ⟨well, stage, keeps, trimmed⟩ | ⟨failed, stage, keeps⟩
        · rw [if_pos well]
          exact .prefork arguments target context first second session
            (emptied.keep keeps.1 keeps.2) trimmed stage
        · rw [if_neg failed]
          exact .user arguments target first second (emptied.keep keeps.1 keeps.2) stage
      all_goals
        rename_i stage
        cases stage.symm.trans reached
  | postfork context =>
      cases led
      case prefork arguments target confining first second third emptied trimmed stage =>
        rcases ends with ⟨well, stage, keeps, locked⟩ | ⟨failed, stage, keeps⟩
        · rw [if_pos well]
          exact .postfork arguments target confining context first second third session
            { emptied.keep keeps.1 (by rw [keeps.2]), trimmed.keep keeps.2, locked with } stage
        · rw [if_neg failed]
          exact .prefork arguments target confining first second third
            (emptied.keep keeps.1 (by rw [keeps.2])) (trimmed.keep keeps.2) stage
      all_goals
        rename_i stage
        cases stage.symm.trans reached

namespace HostRun

/-- **Run.** A run that starts with an empty record stands where the takings that ended well
lead. -/
theorem led (run : start.HostRun history session) (fresh : start.privileges = .start) :
    Led (succeeded history) session := by
  induction run with
  | start =>
      refine .startup ?_
      rw [fresh]
      rfl
  | take run step ih =>
      rename_i history session
      rw [succeeded_append]
      by_cases reached : session.privileges.stage = step.stage
      · exact ih.take step reached
      · have refused := step.take_elsewhere session reached
        unfold Taking.result Taking.next Isolating.ending Isolating.reached
        rw [refused]
        exact ih

end HostRun

/-! ## Progress -/

/-- No call of one of the names is made to fail. -/
def Unrefused (names : List CallName) (session : Session Host) : Prop :=
  ∀ name ∈ names, session.kernel.script name = .never

instance (names : List CallName) (session : Session Host) : Decidable (Unrefused names session) :=
  inferInstanceAs (Decidable (∀ name ∈ names, session.kernel.script name = .never))

/-- A call that is not made to fail ends well, and later ones are not made to fail either. -/
theorem calling_succeeds {names : List CallName} {name : CallName} {stage : Stage}
    {fault : Int → Failure} {call : SystemCall} {change : System → System}
    (named : call.name? = some name) (listed : name ∈ names) :
    Isolating.Triple
      (fun session : Session Host => session.privileges.stage = stage ∧ Unrefused names session)
      (Isolating.calling fault (Host.act call change))
      (fun _ session => session.privileges.stage = stage ∧ Unrefused names session)
      fun _ _ => False := by
  rintro session ⟨reached, unrefused⟩
  rw [Isolating.calling_eq]
  unfold Host.act Host.make Host.scripted
  simp only [named, unrefused name listed, Script.next]
  refine ⟨reached, fun other member => ?_⟩
  dsimp only
  split
  case isTrue => rfl
  case isFalse => exact unrefused other member

/-- The names of the calls that a postfork step makes. -/
def sealingNames : List CallName := [.setDumpable, .setrlimit, .setNoNewPrivs, .seccomp]

/-- A postfork step ends well where none of its calls is made to fail. -/
theorem postfork_succeeds (context : IsolationContext)
    (reached : session.privileges.stage = .preforkIsolated)
    (unrefused : Unrefused sealingNames session) :
    Taking.result ⟨.postfork context, session⟩ = .ok () := by
  let ready := fun session : Session Host =>
    session.privileges.stage = .preforkIsolated ∧ Unrefused sealingNames session
  obtain ⟨program, compiled⟩ := Filter.compile_ofProfile (Filter.ofMode context.operating).profile
  have disables : Isolating.Triple ready (Isolating.perform Host.disableCoreDumps) (fun _ => ready)
      fun _ _ => False := by
    unfold Host.disableCoreDumps
    simp only [Isolating.perform_bind, Isolating.perform_attempt]
    exact Isolating.Triple.bind (fun _ => ready) (calling_succeeds rfl (by decide))
      fun _ => calling_succeeds rfl (by decide)
  have installs : Isolating.Triple ready
      (Isolating.perform (Host.installFilter (Filter.ofMode context.operating))) (fun _ => ready)
      fun _ _ => False := by
    unfold Host.installFilter
    rw [show (Filter.ofMode context.operating).compile = .ok program from compiled]
    simp only [Isolating.perform_bind, Isolating.perform_attempt, Isolating.perform_applying]
    refine Isolating.Triple.bind (fun _ => ready) (calling_succeeds rfl (by decide)) fun _ => ?_
    refine Isolating.Triple.bind (fun _ => ready) (calling_succeeds rfl (by decide)) fun _ => ?_
    exact calling_succeeds rfl (by decide)
  have completes : Isolating.Triple ready (IsolationStep.postfork context).take
      (fun _ session => session.privileges.stage = .postforkIsolated) fun _ _ => False := by
    refine Isolating.Triple.bind (fun _ => ready) ?_ fun _ => ?_
    · intro session ready
      rw [Isolating.requireStage_ok _ ready.1]
      exact ready
    refine Isolating.Triple.bind (fun _ => ready) disables fun _ => ?_
    refine Isolating.Triple.bind (fun _ => ready)
      (Isolating.Triple.recording fun _ ready => ready) fun _ => ?_
    refine Isolating.Triple.bind (fun _ => ready) installs fun _ => ?_
    refine Isolating.Triple.bind (fun _ => ready)
      (Isolating.Triple.recording fun _ ready => ready) fun _ => ?_
    exact (Isolating.finish_completes rfl).weaken (fun _ ready => ready.1) (fun _ _ holds => holds)
      fun _ _ => False.elim
  obtain ⟨_, well, -⟩ := completes.ends session ⟨reached, unrefused⟩
  exact well

namespace HostRun

/-- **Surrendered privileges.** Once a postfork step has ended well, each of the four steps has
ended well once, and everything that they are to give up is given up. -/
theorem surrendered (run : start.HostRun history session) (fresh : start.privileges = .start)
    (sealed : ∃ context last, ⟨.postfork context, last⟩ ∈ succeeded history) :
    ∃ arguments target confining sealing first second third fourth,
      succeeded history = [⟨.initial arguments, first⟩, ⟨.user target, second⟩,
        ⟨.prefork confining, third⟩, ⟨.postfork sealing, fourth⟩] ∧
      Surrendered target second confining sealing session.kernel.system := by
  have led := run.led fresh
  obtain ⟨context, last, member⟩ := sealed
  generalize succeeded history = done at led member
  cases led
  case postfork arguments target confining sealing first second third fourth surrendered _ =>
    exact ⟨arguments, target, confining, sealing, first, second, third, fourth, rfl, surrendered⟩
  -- None of the other lists has a postfork step.
  all_goals simp at member

/-- A run in which a step is taken twice, because it failed at first, has given up the same. -/
theorem surrendered_retried : ∃ start history session, Session.HostRun start history session ∧
    start.privileges = .start ∧ history.length = 5 ∧
      ∃ arguments target confining sealing first second third fourth,
        succeeded history = [⟨.initial arguments, first⟩, ⟨.user target, second⟩,
          ⟨.prefork confining, third⟩, ⟨.postfork sealing, fourth⟩] ∧
        Surrendered target second confining sealing session.kernel.system := by
  -- No bit can be dropped, and the root cannot be replaced at first.
  let script : CallName → Script
    | .boundingDrop => .always Errno.eperm.number
    | .pivotRoot => .listed [Errno.eperm.number]
    | _ => .never
  let start : Session Host := { kernel := { script } }
  let context : IsolationContext := { operating := ⟨.passt, false⟩ }
  have begun : start.HostRun [] start := .start
  have run := ((((begun.take (.initial [])).take
    (.user ⟨1000, 1000, false, none, context.operating⟩)).take (.prefork context)).take
    (.prefork context)).take (.postfork context)
  refine ⟨start, _, _, run, rfl, rfl,
    surrendered run rfl ⟨_, _, mem_succeeded (postfork_succeeds context ?_ ?_)⟩⟩
  · decide +kernel
  · decide +kernel

end HostRun

end Session

end SelfIsolation
