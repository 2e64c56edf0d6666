import SelfIsolation.Lifecycle.Session
import SelfIsolation.Proofs.Simulation.Submission

/-! # Following a plan of calls

A plan fixes which calls a step makes and which error numbers it passes over
(`SelfIsolation.CallPlan`). While a step follows its plan, the calls made so far and
those that remain make up the script (`SelfIsolation.CallPlan.Remaining`); it gives
up at the first refusal that it does not pass over
(`SelfIsolation.CallPlan.Abandoned`). There is one rule for each way of making a call.
-/

namespace SelfIsolation

open SimulatedKernel (submit answered answered_ok answered_error composite primitive make_ok
  make_error readCaps_ok)

/-- The calls to be made from a kernel on, and the error numbers that each call may be refused
with. -/
structure CallPlan where
  first : SimulatedKernel
  script : List SimulatedCall
  tolerated : SimulatedCall → List Errno

/-- A call that was accepted, or refused with an error number that is passed over. -/
def Passes (tolerated : SimulatedCall → List Errno) (made : SimulatedCall × CallAnswer) : Prop :=
  made.2 = .ok () ∨ ∃ errno ∈ tolerated made.1, made.2 = .error (some errno)

namespace CallPlan

variable {plan : CallPlan} {call : SimulatedCall} {rest rest' rest'' : List SimulatedCall}
  {holds holds' : SimulatedProcess → Prop} {kernel next : SimulatedKernel}

/-- Every call so far was passed, and `rest` completes the script. -/
def Remaining (plan : CallPlan) (rest : List SimulatedCall) (holds : SimulatedProcess → Prop)
    (kernel : SimulatedKernel) : Prop :=
  ∃ calls, plan.first.Makes calls kernel ∧ calls.map Prod.fst ++ rest = plan.script ∧
    (∀ made ∈ calls, Passes plan.tolerated made) ∧ holds kernel.process

/-- Where a plan is given up: at a refusal that is not passed over, which the failure tells of, or
at a violation. -/
def Abandoned (plan : CallPlan) (kernel : SimulatedKernel) : Fault → Prop
  | .failed failure => ∃ front call errno,
      plan.first.Makes (front ++ [(call, .error (some errno))]) kernel ∧
      front.map Prod.fst ++ [call] <+: plan.script ∧
      (∀ made ∈ front, Passes plan.tolerated made) ∧
      errno ∉ plan.tolerated call ∧ failure.errno? = some errno
  | .violated _ => ∃ calls, plan.first.Makes calls kernel ∧
      calls.map Prod.fst <+: plan.script ∧ ∀ made ∈ calls, Passes plan.tolerated made

namespace Remaining

theorem start (plan : CallPlan) (begins : holds plan.first.process) :
    plan.Remaining plan.script holds plan.first :=
  ⟨[], .nothing, rfl, fun _ member => absurd member List.not_mem_nil, begins⟩

theorem held (remaining : plan.Remaining rest holds kernel) : holds kernel.process := by
  obtain ⟨_, _, _, _, held⟩ := remaining
  exact held

theorem weaken (remaining : plan.Remaining rest holds kernel)
    (implies : holds kernel.process → holds' kernel.process) :
    plan.Remaining rest holds' kernel := by
  obtain ⟨calls, made, whole, passed, held⟩ := remaining
  exact ⟨calls, made, whole, passed, implies held⟩

/-- A call that is accepted is the next one of the script. -/
theorem accept {ε α : Type} {errno? : ε → Option Errno} {action : EStateM ε SimulatedKernel α}
    {value : α} (remaining : plan.Remaining (call :: rest) holds kernel)
    (submitted : submit call = answered errno? (.silent action))
    (taken : action kernel = .ok value next) (holds : holds' next.process) :
    plan.Remaining rest holds' next := by
  obtain ⟨calls, made, whole, passed, _⟩ := remaining
  have answer : submit call kernel = .ok () next := by
    rw [submitted]
    exact answered_ok taken
  refine ⟨calls ++ [(call, .ok ())], made.accepted answer, ?_, ?_, holds⟩
  · rw [← whole, List.map_append, List.append_assoc]
    rfl
  · intro entry member
    rcases List.mem_append.mp member with earlier | last
    · exact passed entry earlier
    · cases List.mem_singleton.mp last
      exact .inl rfl

section Refused

variable {ε α : Type} {errno? : ε → Option Errno} {action : EStateM ε SimulatedKernel α}
  {e : ε} {errno : Errno}

/-- A call that is refused and passed over is the next one of the script. -/
theorem pass (remaining : plan.Remaining (call :: rest) holds kernel)
    (submitted : submit call = answered errno? (.silent action))
    (taken : action kernel = .error e next) (numbered : errno? e = some errno)
    (tolerated : errno ∈ plan.tolerated call) (holds : holds' next.process) :
    plan.Remaining rest holds' next := by
  obtain ⟨calls, made, whole, passed, _⟩ := remaining
  have answer : submit call kernel = .error (some errno) next := by
    rw [submitted, ← numbered]
    exact answered_error taken
  refine ⟨calls ++ [(call, .error (some errno))], made.refused answer, ?_, ?_, holds⟩
  · rw [← whole, List.map_append, List.append_assoc]
    rfl
  · intro entry member
    rcases List.mem_append.mp member with earlier | last
    · exact passed entry earlier
    · cases List.mem_singleton.mp last
      exact .inr ⟨errno, tolerated, rfl⟩

/-- A plan is abandoned at a refusal that is not passed over. -/
theorem refuse {failure : Failure} (remaining : plan.Remaining (call :: rest) holds kernel)
    (submitted : submit call = answered errno? (.silent action))
    (taken : action kernel = .error e next) (numbered : errno? e = some errno)
    (fatal : errno ∉ plan.tolerated call) (told : failure.errno? = some errno) :
    plan.Abandoned next (.failed failure) := by
  obtain ⟨calls, made, whole, passed, _⟩ := remaining
  have answer : submit call kernel = .error (some errno) next := by
    rw [submitted, ← numbered]
    exact answered_error taken
  refine ⟨calls, call, errno, made.refused answer, ⟨rest, ?_⟩, passed, fatal, told⟩
  rw [← whole, List.append_assoc]
  exact rfl

end Refused

/-- A plan may be abandoned anywhere for a violation. -/
theorem violate (remaining : plan.Remaining rest holds kernel) (violation : Violation) :
    plan.Abandoned kernel (.violated violation) := by
  obtain ⟨calls, made, whole, passed, _⟩ := remaining
  exact ⟨calls, made, ⟨rest, whole⟩, passed⟩

end Remaining

/-- A step makes calls of a plan, `rest` before it and `rest'` after it being those that remain. -/
def Follows {α : Type} (plan : CallPlan) (rest : List SimulatedCall)
    (holds : SimulatedProcess → Prop) (step : Isolating SimulatedKernel α)
    (rest' : List SimulatedCall) (after : α → SimulatedProcess → Prop) : Prop :=
  Isolating.Triple (fun session => plan.Remaining rest holds session.kernel) step
    (fun value session => plan.Remaining rest' (after value) session.kernel)
    fun fault session => plan.Abandoned session.kernel fault

namespace Follows

variable {α β : Type} {after : α → SimulatedProcess → Prop}

/-- Steps one after the other follow a plan if each follows its part. -/
theorem bind (middle : β → SimulatedProcess → Prop) {first : Isolating SimulatedKernel β}
    {second : β → Isolating SimulatedKernel α} (head : plan.Follows rest holds first rest' middle)
    (tail : ∀ value, plan.Follows rest' (middle value) (second value) rest'' after) :
    plan.Follows rest holds (first >>= second) rest'' after :=
  Isolating.Triple.bind (fun value session => plan.Remaining rest' (middle value) session.kernel)
    head tail

theorem pure (value : α) (implies : ∀ process, holds process → after value process) :
    plan.Follows rest holds (pure value) rest after :=
  Isolating.Triple.pure value fun _ remaining => remaining.weaken (implies _)

/-- A report makes no call. -/
theorem note {after : Unit → SimulatedProcess → Prop} (level : LogLevel) (text : String)
    (implies : ∀ process, holds process → after () process) :
    plan.Follows rest holds (Isolating.note level text) rest after :=
  Isolating.Triple.note level text fun _ remaining => remaining.weaken (implies _)

/-- A report, and then the rest of a step. -/
theorem noting {level : LogLevel} {text : String} {tail : Unit → Isolating SimulatedKernel α}
    (follows : plan.Follows rest holds (tail ()) rest' after) :
    plan.Follows rest holds (Isolating.note level text >>= tail) rest' after :=
  bind (fun _ => holds) (note level text fun _ held => held) fun _ => follows

theorem notes (entries : List LogRecord) :
    plan.Follows rest holds (entries.forM fun entry => Isolating.note entry.level entry.text) rest
      (fun _ => holds) := by
  induction entries with
  | nil => exact pure () fun _ held => held
  | cons entry entries ih => exact noting ih

theorem assuming {step : Isolating SimulatedKernel α}
    (follows : plan.Follows rest holds step rest' after)
    (implies : ∀ process, holds' process → holds process) :
    plan.Follows rest holds' step rest' after :=
  fun session remaining => follows session (remaining.weaken (implies _))

/-- What is known of the process may be used to follow the plan. -/
theorem knowing {step : Isolating SimulatedKernel α}
    (follows : ∀ process, holds process → plan.Follows rest holds step rest' after) :
    plan.Follows rest holds step rest' after :=
  fun session remaining => follows _ remaining.held session remaining

theorem reading {tail : Session SimulatedKernel → Isolating SimulatedKernel α}
    (follows : ∀ session, holds session.kernel.process →
      plan.Follows rest holds (tail session) rest' after) :
    plan.Follows rest holds (get >>= tail) rest' after := by
  refine Isolating.Triple.bind
    (fun read session => read = session ∧ plan.Remaining rest holds session.kernel)
    (Isolating.Triple.get fun _ remaining => ⟨rfl, remaining⟩) ?_
  rintro read _ ⟨rfl, remaining⟩
  exact follows read remaining.held read remaining

/-- Looking at the process makes no call. -/
theorem observe {observation : SimulatedProcess → α}
    (implies : ∀ process, holds process → after (observation process) process) :
    plan.Follows rest holds
      (Isolating.observe fun machine => (observation machine.kernel.process, machine)) rest after :=
  Isolating.Triple.observe fun _ remaining => remaining.weaken (implies _)

/-- Recording makes no call. -/
theorem recording {after : Unit → SimulatedProcess → Prop}
    {change : PrivilegeRecord → PrivilegeRecord}
    (implies : ∀ process, holds process → after () process) :
    plan.Follows rest holds (Isolating.recording change) rest after :=
  Isolating.Triple.recording fun _ remaining => remaining.weaken (implies _)

/-- Recording makes no call, and abandons the plan where it is refused. -/
theorem recordingChecked {change : PrivilegeRecord → Except Violation PrivilegeRecord} :
    plan.Follows rest holds (Isolating.recordingChecked change) rest (fun _ => holds) :=
  Isolating.Triple.recordingChecked (fun _ _ remaining _ => remaining)
    fun _ violation remaining _ => remaining.violate violation

/-- A call whose refusal fails the step. -/
theorem perform {after : Unit → SimulatedProcess → Prop}
    {rule : SimulatedProcess → Except Failure SimulatedProcess}
    (submitted : submit call = answered Failure.errno? (.silent (composite call rule)))
    (fatal : plan.tolerated call = [])
    (numbered : ∀ process failure, rule process = .error failure →
      ∃ errno, failure.errno? = some errno)
    (accepted : ∀ process next, holds process → rule process = .ok next → after () next) :
    plan.Follows (call :: rest) holds (Isolating.perform (.silent (composite call rule))) rest
      after := by
  refine Isolating.Triple.perform ?_ ?_
  · intro session value machine remaining taken
    obtain ⟨kernel, made, rfl⟩ := KernelAction.silent_ok taken
    obtain ⟨_, process, ruled, rfl⟩ := make_ok made
    exact remaining.accept submitted made (accepted _ _ remaining.held ruled)
  · intro session failure machine remaining taken
    obtain ⟨kernel, made, rfl⟩ := KernelAction.silent_error taken
    have told : ∃ errno, failure.errno? = some errno := by
      rcases (make_error made).2 with ⟨errno, _, rfl⟩ | ⟨_, ruled⟩
      · exact ⟨errno, rfl⟩
      · exact numbered _ _ ruled
    obtain ⟨errno, told⟩ := told
    refine remaining.refuse submitted made told ?_ told
    rw [fatal]
    exact List.not_mem_nil

/-- A call whose error number fails the step. -/
theorem attempt {after : Unit → SimulatedProcess → Prop} {purpose : Attempt}
    {rule : SimulatedProcess → Except Errno SimulatedProcess}
    (submitted : submit call = answered some (.silent (primitive call rule)))
    (fatal : plan.tolerated call = [])
    (accepted : ∀ process next, holds process → rule process = .ok next → after () next) :
    plan.Follows (call :: rest) holds (Isolating.attempt purpose (.silent (primitive call rule)))
      rest after := by
  refine Isolating.Triple.attempt ?_ ?_
  · intro session value machine remaining taken
    obtain ⟨kernel, made, rfl⟩ := KernelAction.silent_ok taken
    obtain ⟨_, process, ruled, rfl⟩ := make_ok made
    exact remaining.accept submitted made (accepted _ _ remaining.held ruled)
  · intro session errno machine remaining taken
    obtain ⟨kernel, made, rfl⟩ := KernelAction.silent_error taken
    refine remaining.refuse submitted made rfl ?_ rfl
    rw [fatal]
    exact List.not_mem_nil

/-- Reading the capability sets makes the call for that. -/
theorem readCaps {after : ProcessCaps → SimulatedProcess → Prop} {purpose : Attempt}
    (fatal : plan.tolerated .readCaps = [])
    (accepted : ∀ process, holds process → after process.caps process) :
    plan.Follows (.readCaps :: rest) holds (Isolating.attempt purpose Kernel.readCaps)
      rest after := by
  refine Isolating.Triple.attempt ?_ ?_
  · intro session sets machine remaining taken
    obtain ⟨kernel, read, rfl⟩ := KernelAction.silent_ok taken
    obtain ⟨rfl, rfl⟩ := readCaps_ok read
    exact remaining.accept rfl read (accepted _ remaining.held)
  · intro session errno machine remaining taken
    obtain ⟨kernel, read, rfl⟩ := KernelAction.silent_error taken
    refine remaining.refuse rfl read rfl ?_ rfl
    rw [fatal]
    exact List.not_mem_nil

/-- A call whose error number may be passed over. -/
theorem tolerate {after : Outcome → SimulatedProcess → Prop} {tolerance : Tolerance}
    {purpose : Attempt} {rule : SimulatedProcess → Except Errno SimulatedProcess}
    (submitted : submit call = answered some (.silent (primitive call rule)))
    (listed : plan.tolerated call = tolerance.errnos)
    (accepted : ∀ process next, holds process → rule process = .ok next → after .applied next)
    (passed : ∀ process errno, holds process → after (.tolerated errno) process) :
    plan.Follows (call :: rest) holds
      (Isolating.tolerate tolerance purpose (.silent (primitive call rule))) rest after := by
  refine Isolating.Triple.tolerate ?_ ?_ ?_
  · intro session value machine remaining taken
    obtain ⟨kernel, made, rfl⟩ := KernelAction.silent_ok taken
    obtain ⟨_, process, ruled, rfl⟩ := make_ok made
    exact remaining.accept submitted made (accepted _ _ remaining.held ruled)
  · intro session errno machine remaining taken member
    obtain ⟨kernel, made, rfl⟩ := KernelAction.silent_error taken
    -- A refusal leaves the process alone, so what held of it still does.
    have same : kernel.process = session.kernel.process := by
      rw [(make_error made).1]
      rfl
    refine remaining.pass submitted made rfl ?_ ?_
    · rw [listed]
      exact of_decide_eq_true member
    · rw [same]
      exact passed _ _ remaining.held
  · intro session errno machine remaining taken absent
    obtain ⟨kernel, made, rfl⟩ := KernelAction.silent_error taken
    refine remaining.refuse submitted made rfl ?_ rfl
    rw [listed]
    exact of_decide_eq_false absent

end Follows

end CallPlan

end SelfIsolation
