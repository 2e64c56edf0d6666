import SelfIsolation.Proofs.Host.Course

/-! # Single calls on their course

Whatever is being done, a call whose failure ends the step is one and the same
action (`SelfIsolation.Isolating.calling`), and operations of several calls are
performed call by call (`SelfIsolation.Isolating.perform_bind`). A call follows a
course where it is permitted and where the step may stop
(`SelfIsolation.Course.Follows.act`, `SelfIsolation.Course.Follows.ask`,
`SelfIsolation.Course.Follows.tolerate`, `SelfIsolation.Course.Follows.sparing`).
-/

namespace SelfIsolation

variable {α β ε : Type}

namespace Isolating

/-! ## Sequences -/

/-- Actions one after the other are performed one after the other. -/
theorem perform_bind (first : Host.Action β) (second : β → Host.Action α) :
    perform (first >>= second) = perform first >>= fun value => perform (second value) := by
  funext session
  simp only [bind, EStateM.bind, perform]
  cases first session.toMachine <;> rfl

theorem perform_note (level : LogLevel) (text : String) :
    perform (Host.note level text) = note level text := rfl

theorem perform_asking (question : StateM Host α) :
    perform (.asking question : Host.Action α) = observe fun machine => machine.ask question := rfl

/-- A call whose failure ends the step. -/
def calling (fault : Int → Failure) (call : EStateM Int Host α) : Isolating Host α :=
  perform (.silent (EStateM.adaptExcept fault call))

theorem perform_attempt (purpose : Attempt) (call : EStateM Int Host α) :
    perform (Host.attempt purpose call) =
      calling (fun code => .call purpose (.ofCode code)) call := rfl

/-- An attempt at a call with an error number is that call, failing for what was attempted. -/
theorem attempt_eq (purpose : Attempt) (call : EStateM Int Host α) :
    attempt purpose (.silent (Host.named call)) =
      calling (fun code => .call purpose (.ofCode code)) call := by
  funext session
  unfold attempt outcome calling perform KernelAction.silent Host.named EStateM.adaptExcept
  simp only [bind, EStateM.bind]
  cases call session.kernel <;> rfl

theorem perform_applying (call : FilterCall) (action : EStateM Int Host Unit) :
    perform (Host.applying call action) =
      calling (fun code => .filter (.notApplied call code)) action := rfl

/-- Use of a file by a call is that call, failing for the file. -/
theorem perform_onFile (failure : FileFault → Failure) (call : EStateM Int Host α) :
    perform (Host.onFile failure (EStateM.adaptExcept .refused call)) =
      calling (fun code => failure (.refused code)) call := by
  funext session
  unfold calling perform Host.onFile KernelAction.silent EStateM.adaptExcept
  cases call session.kernel <;> rfl

/-- Use of a path by a call is that call if the path is valid, and fails for the file otherwise. -/
theorem perform_atPath (failure : FileFault → Failure) (path : String) (call : EStateM Int Host α) :
    perform (Host.onFile failure (Host.atPath path call)) =
      if Host.isPath path then calling (fun code => failure (.refused code)) call
      else fail (failure .invalidPath) := by
  unfold Host.atPath
  split
  case isTrue => exact perform_onFile failure call
  case isFalse => rfl

/-- A call keeps the session but for the host. -/
theorem calling_eq (fault : Int → Failure) (call : EStateM Int Host α) (session : Session Host) :
    calling fault call session =
      match call session.kernel with
      | .ok value kernel => .ok value { session with kernel }
      | .error code kernel => .error (.failed (fault code)) { session with kernel } := by
  unfold calling perform KernelAction.silent EStateM.adaptExcept
  cases call session.kernel <;> rfl

/-- How a call whose failure ends the step comes out. -/
inductive Called (fault : Int → Failure) (call : SystemCall)
    (rule : System → Except Int (α × System)) (session : Session Host) :
    EStateM.Result Fault (Session Host) α → Prop
  | answered {value : α} {system : System} {script : CallName → Script}
      (ruled : rule session.kernel.system = .ok (value, system)) :
      Called fault call rule session (.ok value
        { session with
          kernel := { system, script, trace := session.kernel.trace ++ [⟨call, none⟩] } })
  | refused {code : Int} {script : CallName → Script} :
      Called fault call rule session (.error (.failed (fault code))
        { session with
          kernel :=
            { session.kernel with
              script
              trace := session.kernel.trace ++ [⟨call, some code⟩] } })

/-- A call of a step is answered by its rule or refused by the script. -/
theorem calling_called (fault : Int → Failure) (call : SystemCall)
    (rule : System → Except Int (α × System)) (session : Session Host) :
    Called fault call rule session (calling fault (Host.make call rule) session) := by
  rw [calling_eq]
  cases taken : Host.make call rule session.kernel with
  | ok value kernel =>
      obtain ⟨script, system, ruled, rfl⟩ := Host.make_ok taken
      exact .answered ruled
  | error code kernel =>
      obtain ⟨script, rfl⟩ := Host.make_error taken
      exact .refused

/-- A call whose failure may be passed over goes on where it is, and fails otherwise. -/
theorem tolerate_eq (tolerance : Tolerance) (purpose : Attempt) (call : EStateM Int Host α)
    (session : Session Host) :
    tolerate tolerance purpose (.silent (Host.named call)) session =
      match call session.kernel with
      | .ok _ kernel => .ok .applied { session with kernel }
      | .error code kernel =>
        if tolerance.tolerates (.ofCode code) then
          .ok (.tolerated (.ofCode code)) { session with kernel }
        else .error (.failed (.call purpose (.ofCode code))) { session with kernel } := by
  unfold tolerate outcome KernelAction.silent Host.named EStateM.adaptExcept
  simp only [bind, EStateM.bind]
  cases call session.kernel with
  | ok value kernel => rfl
  | error code kernel =>
      by_cases listed : tolerance.tolerates (.ofCode code) = true
      · simp only [Tolerance.check, listed, ↓reduceIte]
        rfl
      · simp only [Tolerance.check, listed]
        rfl

end Isolating

namespace Course

open Isolating

variable {course : Course} {before : Position} {after : α → Position} {call : SystemCall}

/-! ## Single calls -/

/-- A call whose failure ends the step. -/
theorem Follows.make {fault : Int → Failure} {rule : System → Except Int (α × System)}
    (stops : ∀ record system made, before record system made → course.failing record system)
    (accepted : ∀ record system made value next, before record system made →
      rule system = .ok (value, next) → after value record next (made ++ [⟨call, none⟩]))
    (permitted : ∀ record system made, before record system made →
      course.step.Permits course.directories made call := by exact fun _ _ _ _ => trivial) :
    course.Follows before (calling fault (Host.make call rule)) after := by
  refine ⟨fun session ⟨made, traced, clear, start⟩ => ?_⟩
  rw [calling_eq]
  cases taken : Host.make call rule session.kernel with
  | ok value kernel =>
      obtain ⟨script, system, ruled, rfl⟩ := Host.make_ok taken
      refine ⟨made ++ [⟨call, none⟩], ?_, clear.ok (permitted _ _ _ start),
        accepted _ _ _ _ _ start ruled⟩
      rw [← List.append_assoc, ← traced]
  | error code kernel =>
      obtain ⟨script, rfl⟩ := Host.make_error taken
      refine ⟨made ++ [⟨call, some code⟩], ?_, .refused clear (permitted _ _ _ start) code,
        stops _ _ _ start⟩
      rw [← List.append_assoc, ← traced]

/-- A step goes on with the change that a call makes, or fails with the call. -/
theorem Follows.act {after : Unit → Position} {fault : Int → Failure} {change : System → System}
    (stops : ∀ record system made, before record system made → course.failing record system)
    (accepted : ∀ record system made, before record system made →
      after () record (change system) (made ++ [⟨call, none⟩]))
    (permitted : ∀ record system made, before record system made →
      course.step.Permits course.directories made call := by exact fun _ _ _ _ => trivial) :
    course.Follows before (calling fault (Host.act call change)) after := by
  refine Follows.make stops ?_ permitted
  intro record system made value next start ruled
  cases ruled
  exact accepted _ _ _ start

/-- A call with an effect, told by an error number that has a name. -/
theorem Follows.attempt {after : Unit → Position} {purpose : Attempt} {change : System → System}
    (stops : ∀ record system made, before record system made → course.failing record system)
    (accepted : ∀ record system made, before record system made →
      after () record (change system) (made ++ [⟨call, none⟩]))
    (permitted : ∀ record system made, before record system made →
      course.step.Permits course.directories made call := by exact fun _ _ _ _ => trivial) :
    course.Follows before (attempt purpose (.silent (Host.named (Host.act call change))))
      after := by
  rw [attempt_eq]
  exact Follows.act stops accepted permitted

/-- A step goes on with the answer to a call, or fails with the call. -/
theorem Follows.ask {fault : Int → Failure} {rule : System → Except Int α}
    (stops : ∀ record system made, before record system made → course.failing record system)
    (accepted : ∀ record system made value, before record system made →
      rule system = .ok value → after value record system (made ++ [⟨call, none⟩]))
    (permitted : ∀ record system made, before record system made →
      course.step.Permits course.directories made call := by exact fun _ _ _ _ => trivial) :
    course.Follows before (calling fault (Host.ask call rule)) after := by
  refine Follows.make stops ?_ permitted
  intro record system made value next start ruled
  cases told : rule system with
  | error code =>
      rw [told] at ruled
      cases ruled
  | ok answer =>
      rw [told] at ruled
      cases ruled
      exact accepted _ _ _ _ start told

section Exactly

variable {record : PrivilegeRecord} {system : System} {made : List CallEvent}

/-- A call with an effect, and what comes after it. -/
theorem Follows.acting {fault : Int → Failure} {change : System → System}
    {rest : Unit → Isolating Host α} (stops : course.failing record system)
    (tail : course.Follows (.exactly record (change system) (made ++ [⟨call, none⟩])) (rest ())
      after)
    (permitted : course.step.Permits course.directories made call := by exact trivial) :
    course.Follows (.exactly record system made) (calling fault (Host.act call change) >>= rest)
      after :=
  Follows.bind (fun _ => .exactly record (change system) (made ++ [⟨call, none⟩]))
    (Follows.act (Position.exactly_elim stops) (Position.exactly_elim ⟨rfl, rfl, rfl⟩)
      (Position.exactly_elim permitted)) fun _ => tail

/-- A call that asks for what is known, and what comes after it. -/
theorem Follows.learning {fault : Int → Failure} {known : System → β}
    {rest : β → Isolating Host α} (stops : course.failing record system)
    (tail : course.Follows (.exactly record system (made ++ [⟨call, none⟩]))
      (rest (known system)) after)
    (permitted : course.step.Permits course.directories made call := by exact trivial) :
    course.Follows (.exactly record system made)
      (calling fault (Host.ask call fun system => .ok (known system)) >>= rest) after := by
  refine Follows.bind (fun value record' system' made' => value = known system ∧
      Position.exactly record system (made ++ [⟨call, none⟩]) record' system' made')
    (Follows.ask (Position.exactly_elim stops) ?_ (Position.exactly_elim permitted))
    fun value => ?_
  · rintro _ _ _ value ⟨rfl, rfl, rfl⟩ told
    cases told
    exact ⟨rfl, rfl, rfl, rfl⟩
  · refine Follows.assuming (fun _ _ _ holds => holds.1) fun same => ?_
    rw [same]
    exact tail.weaken (fun _ _ _ holds => holds.2) fun _ _ _ _ holds => holds

end Exactly

/-- A call whose failure may be passed over. -/
theorem Follows.tolerate {after : Outcome → Position} {tolerance : Tolerance} {purpose : Attempt}
    {rule : System → Except Int (α × System)}
    (stops : ∀ record system made, before record system made → course.failing record system)
    (accepted : ∀ record system made value next, before record system made →
      rule system = .ok (value, next) → after .applied record next (made ++ [⟨call, none⟩]))
    (passed : ∀ record system made code, before record system made →
      tolerance.tolerates (.ofCode code) = true →
      course.step.PassesOver made call code ∧
        after (.tolerated (.ofCode code)) record system (made ++ [⟨call, some code⟩]))
    (permitted : ∀ record system made, before record system made →
      course.step.Permits course.directories made call := by exact fun _ _ _ _ => trivial) :
    course.Follows before
      (tolerate tolerance purpose (.silent (Host.named (Host.make call rule)))) after := by
  refine ⟨fun session ⟨made, traced, clear, start⟩ => ?_⟩
  rw [tolerate_eq]
  cases taken : Host.make call rule session.kernel with
  | ok value kernel =>
      obtain ⟨script, system, ruled, rfl⟩ := Host.make_ok taken
      refine ⟨made ++ [⟨call, none⟩], ?_, clear.ok (permitted _ _ _ start),
        accepted _ _ _ _ _ start ruled⟩
      rw [← List.append_assoc, ← traced]
  | error code kernel =>
      obtain ⟨script, rfl⟩ := Host.make_error taken
      by_cases listed : tolerance.tolerates (.ofCode code) = true
      · simp only [listed, ↓reduceIte]
        obtain ⟨passes, holds⟩ := passed _ _ _ _ start listed
        refine ⟨made ++ [⟨call, some code⟩], ?_, clear.pass (permitted _ _ _ start) passes, holds⟩
        rw [← List.append_assoc, ← traced]
      · simp only [listed, Bool.false_eq_true, ↓reduceIte]
        refine ⟨made ++ [⟨call, some code⟩], ?_, .refused clear (permitted _ _ _ start) code,
          stops _ _ _ start⟩
        rw [← List.append_assoc, ← traced]

/-- A call of which one failure is passed over. -/
theorem Follows.sparing {call : SystemCall} {rest : Except Int Unit → Isolating Host α}
    (spared : Errno) (middle : Option Int → Position) (known : spared.number ≠ 0)
    (stops : ∀ record system made, before record system made → course.failing record system)
    (passes : ∀ record system made, before record system made →
      course.step.PassesOver made call spared.number)
    (called : ∀ record system made failure, before record system made →
      middle failure record system (made ++ [⟨call, failure⟩]))
    (refuses : ∀ code, Errno.ofCode code ≠ spared →
      ∃ failure, rest (.error code) = Isolating.fail failure)
    (succeeds : course.Follows (middle none) (rest (.ok ())) after)
    (goes : ∀ code, Errno.ofCode code = spared →
      course.Follows (middle (some code)) (rest (.error code)) after)
    (permitted : ∀ made, course.step.Permits course.directories made call := by
      exact fun _ => trivial) :
    course.Follows before
      ((observe fun machine => machine.ask (Host.ending (Host.act call))) >>= rest) after := by
  refine Follows.asking (fun result record system made => match result with
    | .ok _ => middle none record system made
    | .error code => Errno.ofCode code = spared ∧ middle (some code) record system made)
    (Host.act_told call) ?_ fun result => ?_
  · intro record system made result events start clear told
    cases told with
    | answered _ => exact .inl ⟨clear.ok (permitted made), called _ _ _ _ start⟩
    | refused code =>
        by_cases same : Errno.ofCode code = spared
        · have passed : course.step.PassesOver made call code := by
            rw [Errno.eq_of_ofCode same known]
            exact passes _ _ _ start
          exact .inl ⟨clear.pass (permitted made) passed, same, called _ _ _ _ start⟩
        · exact .inr ⟨.refused clear (permitted made) code, stops _ _ _ start, refuses code same⟩
  · cases result with
    | ok value => exact succeeds
    | error code =>
        exact Follows.assuming (fun _ _ _ holds => holds.1) fun same =>
          (goes code same).weaken (fun _ _ _ holds => holds.2) fun _ _ _ _ holds => holds

end Course

end SelfIsolation
