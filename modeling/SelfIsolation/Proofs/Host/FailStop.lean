import SelfIsolation.Proofs.Host.Step

/-! # Steps stop at failures

A step that is taken at its stage passes over few failures, and any other failure is
that of its last call: the step fails and the stage stays as it was. This is said of
the calls that the step adds to the trace, whatever the system and the script are
(`SelfIsolation.Taking.failStop`).
-/

namespace SelfIsolation

instance decideResult : DecidableEq (Except Fault Unit)
  | .ok (), .ok () => isTrue rfl
  | .ok (), .error _ => isFalse nofun
  | .error _, .ok () => isFalse nofun
  | .error left, .error right => decidable_of_iff (left = right) ⟨congrArg _, Except.error.inj⟩

/-- A step that is taken from a session. -/
structure Taking where
  step : IsolationStep
  session : Session Host

/-- Holds of the calls that replace the root of the filesystem. -/
def SystemCall.replacesRoot : SystemCall → Bool
  | .mount _ _ _ _ _ | .enterDirectory _ | .pivotRoot _ _ | .unmount _ _ => true
  | _ => false

namespace Taking

variable (taking : Taking)

/-- How the step ends. -/
def result : Except Fault Unit := taking.step.take.ending taking.session

/-- The session that the step leaves. -/
def next : Session Host := taking.step.take.reached taking.session

/-- The calls that the step makes. -/
def calls : List CallEvent := taking.next.kernel.trace.drop taking.session.kernel.trace.length

/-- The course of the step. -/
def course : Course := taking.step.course taking.session

/-- The step is taken at its stage. -/
def InOrder : Prop := taking.session.privileges.stage = taking.step.stage

/-- Which of the calls of a step may fail, and what happens where another one does. -/
structure FailStop : Prop where
  traced : taking.next.kernel.trace = taking.session.kernel.trace ++ taking.calls
  /-- Where a step ends well every failure was passed over. -/
  passes : taking.result = .ok () → ∀ before call code after,
    taking.calls = before ++ ⟨call, some code⟩ :: after →
    taking.step.PassesOver before call code
  /-- Any other failure ends the step at once. -/
  stops : ∀ before call code after, taking.calls = before ++ ⟨call, some code⟩ :: after →
    ¬ taking.step.PassesOver before call code →
    after = [] ∧ (∃ failure, taking.result = .error (.failed failure)) ∧
      taking.next.privileges.stage = taking.session.privileges.stage
  /-- Where descriptors could not be closed by ranges, those listed were closed. -/
  walked : ∀ arguments keep, taking.step = .initial arguments →
    Descriptor.designated arguments = .ok keep → taking.result = .ok () →
    Course.Walked keep taking.session.kernel.system taking.calls
  /-- The root is not touched after a failure. -/
  root : ∀ before call code after, taking.calls = before ++ ⟨call, some code⟩ :: after →
    ∀ event ∈ after, event.call.replacesRoot = false
  scratch : ∀ event ∈ taking.calls, event.call.replacesRoot = true →
    ∃ context, taking.step = .prefork context ∧
      context.root.scratch ∈ taking.session.kernel.system.directories
  groupMap : ∀ before content failure after,
    taking.calls = before ++ ⟨.writeFile Host.gidMap content, failure⟩ :: after →
    (∃ content, ⟨.writeFile Host.uidMap content, none⟩ ∈ before) ∧
      ⟨.writeFile Host.groupSwitch "deny", none⟩ ∈ before

variable {taking}

/-- How a step ends, told with the calls that it made. -/
theorem course_ends (inOrder : taking.InOrder) :
    taking.next.kernel.trace = taking.session.kernel.trace ++ taking.calls ∧
      match taking.result with
      | .ok _ => taking.course.Clear taking.calls ∧ taking.step.Achieves taking.session
          taking.next.privileges taking.next.kernel.system taking.calls
      | .error (.failed _) => taking.course.Ended taking.calls ∧
          taking.course.failing taking.next.privileges taking.next.kernel.system
      | .error (.violated _) => taking.course.Clear taking.calls ∧
          taking.course.violating taking.next.privileges taking.next.kernel.system
            taking.calls := by
  have outcome := (Course.take_follows taking.step taking.session inOrder).triple.ending_reached
    taking.session ⟨[], (List.append_nil _).symm, .nothing, rfl, rfl, rfl⟩
  have called : ∀ made, taking.next.kernel.trace = taking.session.kernel.trace ++ made →
      made = taking.calls := by
    intro made traced
    unfold calls
    rw [traced, List.drop_left]
  unfold result
  cases ended : taking.step.take.ending taking.session with
  | ok value =>
      rw [ended] at outcome
      obtain ⟨made, traced, clear, achieved⟩ := outcome
      cases called made traced
      exact ⟨traced, clear, achieved⟩
  | error fault =>
      rw [ended] at outcome
      cases fault with
      | failed failure =>
          obtain ⟨made, traced, stopped, failing⟩ := outcome
          cases called made traced
          exact ⟨traced, stopped, failing⟩
      | violated violation =>
          obtain ⟨made, traced, clear, violating⟩ := outcome
          cases called made traced
          exact ⟨traced, clear, violating⟩

/-- However a step ends, its calls are those of an ended course. -/
theorem calls_ended (inOrder : taking.InOrder) : taking.course.Ended taking.calls := by
  obtain ⟨-, outcome⟩ := course_ends inOrder
  cases ended : taking.result with
  | ok value =>
      rw [ended] at outcome
      exact .clear outcome.1
  | error fault =>
      rw [ended] at outcome
      cases fault with
      | failed failure => exact outcome.1
      | violated violation => exact .clear outcome.1

/-- A step whose calls are not those of a clear course has failed at its stage. -/
theorem failed_of_not_clear (inOrder : taking.InOrder)
    (blocked : ¬ taking.course.Clear taking.calls) :
    (∃ failure, taking.result = .error (.failed failure)) ∧
      taking.next.privileges.stage = taking.session.privileges.stage := by
  obtain ⟨-, outcome⟩ := course_ends inOrder
  cases ended : taking.result with
  | ok value =>
      rw [ended] at outcome
      exact absurd outcome.1 blocked
  | error fault =>
      rw [ended] at outcome
      cases fault with
      | failed failure => exact ⟨⟨failure, rfl⟩, outcome.2.1.trans inOrder.symm⟩
      | violated violation => exact absurd outcome.1 blocked

end Taking

namespace IsolationStep

/-- The prefork step passes over nothing. -/
theorem not_passesOver_prefork {context : IsolationContext} {made : List CallEvent}
    {call : SystemCall} {code : Int} : ¬ PassesOver (.prefork context) made call code :=
  (nomatch ·)

/-- Only the prefork step replaces the root, and only if the scratch directory is there. -/
theorem context_of_replacesRoot {step : IsolationStep} {directories : List String}
    {made : List CallEvent} {call : SystemCall} (replaces : call.replacesRoot = true)
    (permitted : step.Permits directories made call) :
    ∃ context, step = .prefork context ∧ context.root.scratch ∈ directories := by
  cases call with
  | mount | enterDirectory | pivotRoot | unmount => exact permitted
  | _ => cases replaces

end IsolationStep

namespace Taking

/-- **Fail-stop steps.** On every system and with every script, the failures of a step that ends
well are those that it passes over, and any other failure is that of its last call. -/
theorem failStop {taking : Taking} (inOrder : taking.InOrder) : taking.FailStop := by
  obtain ⟨traced, outcome⟩ := course_ends inOrder
  have ended := calls_ended inOrder
  constructor
  case traced => exact traced
  case passes =>
    intro well before call code after whole
    rw [well] at outcome
    exact (outcome.1.split whole).2 code rfl
  case stops =>
    intro before call code after whole fatal
    have last := ((ended.split whole).2 code rfl).resolve_left fatal
    exact ⟨last, failed_of_not_clear inOrder fun clear =>
      fatal ((clear.split whole).2 code rfl)⟩
  case walked =>
    intro arguments keep step designated well
    rw [well, step] at outcome
    exact outcome.2.walked keep designated
  case root =>
    intro before call code after whole event later
    rw [← Bool.not_eq_true]
    intro replaces
    obtain ⟨middle, rest, rfl⟩ := List.append_of_mem later
    have permitted : taking.course.step.Permits taking.course.directories
        (before ++ ⟨call, some code⟩ :: middle) event.call := by
      rw [← List.cons_append, ← List.append_assoc] at whole
      exact (ended.split whole).1
    -- Only the prefork step replaces the root, and it passes over nothing.
    obtain ⟨context, step, -⟩ := IsolationStep.context_of_replacesRoot replaces permitted
    have passed := (ended.split whole).2 code rfl
    rw [step] at passed
    have last := passed.resolve_left IsolationStep.not_passesOver_prefork
    exact absurd last (List.append_ne_nil_of_right_ne_nil _ (List.cons_ne_nil _ _))
  case scratch =>
    intro event member replaces
    obtain ⟨before, after, whole⟩ := List.append_of_mem member
    exact IsolationStep.context_of_replacesRoot replaces (ended.split whole).1
  case groupMap =>
    intro before content failure after whole
    exact (ended.split whole).1 rfl

/-- Where the system cannot close ranges, a descriptor that is listed and closed already is passed
over. -/
theorem failStop_listing : ∃ session : Session Host,
    let taking : Taking := ⟨.initial [], session⟩
    taking.InOrder ∧ taking.result = .ok () ∧
      ⟨.close 7, some Errno.ebadf.number⟩ ∈ taking.calls ∧ taking.FailStop := by
  -- The system cannot close ranges, and of the two descriptors that it lists one is closed already.
  let script : CallName → Script
    | .closeRange => .always Errno.enosys.number
    | .close 7 => .always Errno.ebadf.number
    | _ => .never
  let session : Session Host :=
    { kernel := { system := { descriptorNames := some ["2", "5", "7"] }, script } }
  exact ⟨session, rfl, by decide +kernel, by decide +kernel, failStop rfl⟩

end Taking

end SelfIsolation
