import SelfIsolation.Proofs.Lifecycle.Advance

/-! # Runs of isolation steps

A run takes steps in any order and with any arguments, and the failures that the
kernel is asked for may change between them (`SelfIsolation.Session.Run`). A step
taken out of order changes nothing (`SelfIsolation.IsolationStep.take_elsewhere`);
one taken in order completes the next stage or fails where it stands
(`SelfIsolation.IsolationStep.take_attained`). By induction every run that starts
with an empty record stands where the completed steps lead
(`SelfIsolation.Session.Run.attained`).
-/

namespace SelfIsolation

/-- One of the four steps, with what it is taken for. -/
inductive IsolationStep where
  | initial (arguments : List String)
  | user (target : UserTarget)
  | prefork (context : IsolationContext)
  | postfork (context : IsolationContext)

namespace IsolationStep

/-- The stage a step starts from. -/
def stage : IsolationStep → Stage
  | .initial _ => .startup
  | .user _ => .initial
  | .prefork _ => .userSwitched
  | .postfork _ => .preforkIsolated

/-- The name of a step in the report of a violation. -/
def title : IsolationStep → String
  | .initial _ => "Initial isolation"
  | .user _ => "User isolation"
  | .prefork _ => "Prefork isolation"
  | .postfork _ => "Postfork isolation"

/-- Taking a step. -/
def take {κ : Type} [Kernel κ] : IsolationStep → Isolating κ Unit
  | .initial arguments => Isolating.initial arguments
  | .user target => Isolating.user target
  | .prefork context => Isolating.prefork context
  | .postfork context => Isolating.postfork context

variable {κ : Type} [Kernel κ]

/-- A step starts with the check of its stage. -/
theorem take_eq (step : IsolationStep) : ∃ rest : Isolating κ Unit,
    step.take = Isolating.requireStage step.stage step.title >>= fun _ => rest := by
  cases step with
  | initial arguments => exact ⟨_, rfl⟩
  | user target => exact ⟨_, rfl⟩
  | prefork context => exact ⟨_, rfl⟩
  | postfork context => exact ⟨_, rfl⟩

/-- A step taken out of order is refused and changes nothing. -/
theorem take_elsewhere (step : IsolationStep) (session : Session κ)
    (elsewhere : session.privileges.stage ≠ step.stage) :
    step.take session =
      .error (.violated (.outOfOrder step.title session.privileges.stage step.stage)) session := by
  obtain ⟨rest, same⟩ := step.take_eq (κ := κ)
  rw [same]
  exact bind_of_error (Isolating.requireStage_violated step.title elsewhere)

end IsolationStep

/-- The steps that ended well, in the order in which they were taken. -/
def completed (history : List (IsolationStep × Except Fault Unit)) : List IsolationStep :=
  history.filterMap fun call =>
    match call.2 with
    | .ok _ => some call.1
    | .error _ => none

/-- A step that ends well is completed, and any other is not. -/
theorem completed_append (history : List (IsolationStep × Except Fault Unit))
    (step : IsolationStep) (result : Except Fault Unit) :
    completed (history ++ [(step, result)]) =
      match result with
      | .ok _ => completed history ++ [step]
      | .error _ => completed history := by
  unfold completed
  rw [List.filterMap_append]
  cases result with
  | ok value => rfl
  | error fault => exact List.append_nil _

/-- A run from a session: steps with their ends, first to last, and the session they lead to.
Between steps a failure may be asked for an operation, or taken back. -/
inductive Session.Run (start : Session SimulatedKernel) :
    List (IsolationStep × Except Fault Unit) → Session SimulatedKernel → Prop
  | start : Run start [] start
  | call {history session} (run : Run start history session) (step : IsolationStep) :
      Run start (history ++ [(step, step.take.ending session)]) (step.take.reached session)
  | fail {history session} (run : Run start history session) (operation : Operation)
      (errno : Errno) :
      Run start history { session with kernel := session.kernel.fail operation errno }
  | clearFailure {history session} (run : Run start history session) (operation : Operation) :
      Run start history { session with kernel := session.kernel.clearFailure operation }

/-- The superuser before the first step. -/
def Session.superuser : Session SimulatedKernel := { kernel := .root }

open Standing

/-- Where the completed steps lead. -/
inductive Attained (start : SimulatedProcess) : List IsolationStep → Standing
  | startup {record process} (standing : At .startup start (fun _ _ => True) record process) :
      Attained start [] record process
  | initial {record process} (arguments : List String)
      (standing : At .initial start Swept record process) :
      Attained start [.initial arguments] record process
  | user {record process} (arguments : List String) (target : UserTarget)
      (standing : At .userSwitched start Stripped record process) :
      Attained start [.initial arguments, .user target] record process
  | prefork {record process} (arguments : List String) (target : UserTarget)
      (context : IsolationContext)
      (standing : At .preforkIsolated start (Confined context) record process) :
      Attained start [.initial arguments, .user target, .prefork context] record process
  | postfork {record process} (arguments : List String) (target : UserTarget)
      (confining sealing : IsolationContext)
      (standing : At .postforkIsolated start (Sealed confining sealing) record process) :
      Attained start
        [.initial arguments, .user target, .prefork confining, .postfork sealing] record process

namespace Attained

variable {start : SimulatedProcess} {done : List IsolationStep} {record : PrivilegeRecord}
  {process : SimulatedProcess}

/-- The record of a session that was attained accounts for its process. -/
theorem accounts (attained : Attained start done record process) :
    record.Accounts start process := by
  cases attained with
  | startup standing => exact standing.accounts
  | initial _ standing => exact standing.accounts
  | user _ _ standing => exact standing.accounts
  | prefork _ _ _ standing => exact standing.accounts
  | postfork _ _ _ _ standing => exact standing.accounts

/-- The completed steps are those before the stage reached. -/
theorem stages (attained : Attained start done record process) :
    done.map IsolationStep.stage = Stage.all.take record.stage.index := by
  cases attained with
  | startup standing => rw [standing.stage]; rfl
  | initial _ standing => rw [standing.stage]; rfl
  | user _ _ standing => rw [standing.stage]; rfl
  | prefork _ _ _ standing => rw [standing.stage]; rfl
  | postfork _ _ _ _ standing => rw [standing.stage]; rfl

/-- A step taken in order completes the next stage or fails where it stands. -/
theorem take_leads (attained : Attained start done record process) (step : IsolationStep)
    (expected : record.stage = step.stage) :
    Isolating.Leads (exactly record process) step.take (fun _ => Attained start (done ++ [step]))
      (Attained start done) := by
  -- Each step meets only the standing of its own stage; the stages rule out the others.
  cases step with
  | initial arguments =>
      cases attained
      case startup standing =>
        exact (Isolating.initial_leads arguments).weaken (exactly_elim standing)
          (fun _ _ _ => .initial arguments) fun _ _ => .startup
      all_goals
        rename_i standing
        cases standing.stage.symm.trans expected
  | user target =>
      cases attained
      case initial arguments standing =>
        exact (Isolating.user_leads target).weaken (exactly_elim standing)
          (fun _ _ _ => .user arguments target) fun _ _ => .initial arguments
      all_goals
        rename_i standing
        cases standing.stage.symm.trans expected
  | prefork context =>
      cases attained
      case user arguments target standing =>
        exact (Isolating.prefork_leads context).weaken (exactly_elim standing)
          (fun _ _ _ => .prefork arguments target context) fun _ _ => .user arguments target
      all_goals
        rename_i standing
        cases standing.stage.symm.trans expected
  | postfork sealing =>
      cases attained
      case prefork arguments target confining standing =>
        exact (Isolating.postfork_leads confining sealing).weaken (exactly_elim standing)
          (fun _ _ _ => .postfork arguments target confining sealing)
          fun _ _ => .prefork arguments target confining
      all_goals
        rename_i standing
        cases standing.stage.symm.trans expected

end Attained

/-- Where the completed steps have led a session. -/
def Session.Attained (start session : Session SimulatedKernel) (done : List IsolationStep) : Prop :=
  SelfIsolation.Attained start.kernel.process done session.privileges session.kernel.process

namespace IsolationStep

variable {start session : Session SimulatedKernel} {done : List IsolationStep}

/-- **Step.** A step taken in order completes its stage or fails where it stands, and never breaks
the protocol. -/
theorem take_attained (step : IsolationStep) (attained : start.Attained session done)
    (expected : session.privileges.stage = step.stage) :
    (step.take.ending session = .ok () ∧
        start.Attained (step.take.reached session) (done ++ [step])) ∨
      ∃ failure, step.take.ending session = .error (.failed failure) ∧
        start.Attained (step.take.reached session) done := by
  have outcome := (attained.take_leads step expected).ending_reached session ⟨rfl, rfl⟩
  cases ended : step.take.ending session with
  | ok value =>
      rw [ended] at outcome
      exact .inl ⟨rfl, outcome⟩
  | error fault =>
      rw [ended] at outcome
      obtain ⟨⟨failure, rfl⟩, standing⟩ := outcome
      exact .inr ⟨failure, rfl, standing⟩

end IsolationStep

/-- **Run.** A run that starts with an empty record stands where the completed steps lead. -/
theorem Session.Run.attained {start session : Session SimulatedKernel}
    {history : List (IsolationStep × Except Fault Unit)} (run : start.Run history session)
    (fresh : start.privileges = .start) : start.Attained session (completed history) := by
  induction run with
  | start =>
      refine .startup ⟨?_, ?_, trivial⟩
      · rw [fresh]; rfl
      · rw [fresh]; exact PrivilegeRecord.Accounts.initial _
  | call run step ih =>
      rename_i history session
      rw [completed_append]
      by_cases expected : session.privileges.stage = step.stage
      · rcases step.take_attained ih expected with ⟨ended, standing⟩ | ⟨failure, ended, standing⟩
        · rw [ended]
          exact standing
        · rw [ended]
          exact standing
      · have refused := step.take_elsewhere session expected
        unfold Isolating.ending Isolating.reached
        rw [refused]
        exact ih
  | fail run operation errno ih => exact ih
  | clearFailure run operation ih => exact ih

end SelfIsolation
