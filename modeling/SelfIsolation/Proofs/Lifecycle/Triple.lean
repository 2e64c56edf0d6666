import SelfIsolation.Lifecycle.Session

/-! # Triples of session steps

A triple bounds where a step of a session may end: where it starts, where it ends
well, and where it stops with a fault (`SelfIsolation.Isolating.Triple`). There is
one rule for each way in which steps are built, so a triple of a step is put
together along the text of the step. The rules hold for every kernel; what an
operation of a kernel does is left to the obligations of its rule.
-/

namespace SelfIsolation

section Sequence

variable {ε σ α β : Type} {first : EStateM ε σ β} {second : β → EStateM ε σ α} {state next : σ}

/-- After a first part that ends well comes the second part. -/
theorem bind_of_ok {value : β} (taken : first state = .ok value next) :
    (first >>= second) state = second value next := by
  change EStateM.bind first second state = _
  unfold EStateM.bind
  rw [taken]

/-- A first part that fails is all there is. -/
theorem bind_of_error {e : ε} (taken : first state = .error e next) :
    (first >>= second) state = .error e next := by
  change EStateM.bind first second state = _
  unfold EStateM.bind
  rw [taken]

end Sequence

namespace Isolating

variable {κ α β ι : Type}

/-- How a step ends. -/
def ending (step : Isolating κ α) (session : Session κ) : Except Fault α :=
  match step session with
  | .ok value _ => .ok value
  | .error fault _ => .error fault

/-- The session that a step leaves, however it ends. -/
def reached (step : Isolating κ α) (session : Session κ) : Session κ :=
  match step session with
  | .ok _ next => next
  | .error _ next => next

section Ends

variable {step : Isolating κ α} {session : Session κ}

theorem taken_of_ending_ok {value : α} (ended : step.ending session = .ok value) :
    step session = .ok value (step.reached session) := by
  unfold ending at ended
  unfold reached
  cases taken : step session with
  | ok found next =>
      rw [taken] at ended
      cases ended
      rfl
  | error fault next =>
      rw [taken] at ended
      cases ended

theorem taken_of_ending_error {fault : Fault} (ended : step.ending session = .error fault) :
    step session = .error fault (step.reached session) := by
  unfold ending at ended
  unfold reached
  cases taken : step session with
  | ok found next =>
      rw [taken] at ended
      cases ended
  | error found next =>
      rw [taken] at ended
      cases ended
      rfl

variable {next : Session κ}

theorem ends_of_ok {value : α} (taken : step session = .ok value next) :
    step.ending session = .ok value ∧ step.reached session = next := by
  unfold ending reached
  rw [taken]
  exact ⟨rfl, rfl⟩

theorem ends_of_error {fault : Fault} (taken : step session = .error fault next) :
    step.ending session = .error fault ∧ step.reached session = next := by
  unfold ending reached
  rw [taken]
  exact ⟨rfl, rfl⟩

end Ends

/-! ### Steps that only have to answer -/

/-- An answer that is given in the end does not change how a step ends. -/
theorem ending_answering (step : Isolating κ β) (answer : α) (session : Session κ) :
    (step >>= fun _ => pure answer).ending session = (step.ending session).map fun _ => answer := by
  unfold ending
  simp only [bind, EStateM.bind]
  cases step session <;> rfl

/-- An answer that is given in the end does not change what a step leaves. -/
theorem reached_answering (step : Isolating κ β) (answer : α) (session : Session κ) :
    (step >>= fun _ => pure answer).reached session = step.reached session := by
  unfold reached
  simp only [bind, EStateM.bind]
  cases step session <;> rfl

/-- Taken where `before` holds, a step ends well only where `after` holds of its value, and stops
only where `broken` holds of its fault. -/
def Triple (before : Session κ → Prop) (step : Isolating κ α) (after : α → Session κ → Prop)
    (broken : Fault → Session κ → Prop) : Prop :=
  ∀ session, before session →
    match step session with
    | .ok value next => after value next
    | .error fault next => broken fault next

variable {before : Session κ → Prop} {after : α → Session κ → Prop}
  {broken : Fault → Session κ → Prop}

/-- A triple read off the end of the step and the session it leaves. -/
theorem Triple.ending_reached {step : Isolating κ α} (triple : Triple before step after broken)
    (session : Session κ) (holds : before session) :
    match step.ending session with
    | .ok value => after value (step.reached session)
    | .error fault => broken fault (step.reached session) := by
  have outcome := triple session holds
  unfold ending reached
  cases taken : step session with
  | ok value next => simpa only [taken] using outcome
  | error fault next => simpa only [taken] using outcome

/-- A step that never stops ends well. -/
theorem Triple.ends {step : Isolating κ α} (triple : Triple before step after fun _ _ => False)
    (session : Session κ) (holds : before session) :
    ∃ value, step.ending session = .ok value ∧ after value (step.reached session) := by
  have outcome := triple.ending_reached session holds
  cases ended : step.ending session with
  | ok value =>
      rw [ended] at outcome
      exact ⟨value, rfl, outcome⟩
  | error fault =>
      rw [ended] at outcome
      exact outcome.elim

/-- A step followed by another; `middle` is where the first one ends well. -/
theorem Triple.bind (middle : β → Session κ → Prop) {first : Isolating κ β}
    {second : β → Isolating κ α} (head : Triple before first middle broken)
    (tail : ∀ value, Triple (middle value) (second value) after broken) :
    Triple before (first >>= second) after broken := by
  intro session holds
  have outcome := head session holds
  cases taken : first session with
  | ok value next =>
      rw [taken] at outcome
      rw [bind_of_ok taken]
      exact tail value next outcome
  | error fault next =>
      rw [taken] at outcome
      rw [bind_of_error taken]
      exact outcome

theorem Triple.pure (value : α) (holds : ∀ session, before session → after value session) :
    Triple before (pure value) after broken :=
  fun session start => holds session start

/-- The start may be narrowed and the ends widened. -/
theorem Triple.weaken {before' : Session κ → Prop} {after' : α → Session κ → Prop}
    {broken' : Fault → Session κ → Prop} {step : Isolating κ α}
    (triple : Triple before step after broken)
    (starts : ∀ session, before' session → before session)
    (ends : ∀ value session, after value session → after' value session)
    (stops : ∀ fault session, broken fault session → broken' fault session) :
    Triple before' step after' broken' := by
  intro session holds
  have outcome := triple session (starts session holds)
  cases taken : step session with
  | ok value next =>
      rw [taken] at outcome
      exact ends value next outcome
  | error fault next =>
      rw [taken] at outcome
      exact stops fault next outcome

/-- A step that fails. -/
theorem Triple.fail (failure : Failure)
    (holds : ∀ session, before session → broken (.failed failure) session) :
    Triple before (fail failure) after broken :=
  fun session start => holds session start

/-- A step that reads the session. -/
theorem Triple.get {after : Session κ → Session κ → Prop}
    (holds : ∀ session, before session → after session session) :
    Triple before (get : Isolating κ (Session κ)) after broken :=
  fun session start => holds session start

/-- A step that looks at the machine. -/
theorem Triple.observe {observation : Machine κ → α × Machine κ}
    (holds : ∀ session, before session →
      after (observation session.toMachine).1
        { session with toMachine := (observation session.toMachine).2 }) :
    Triple before (observe observation) after broken :=
  fun session start => holds session start

/-- A change of the record. -/
theorem Triple.recording {after : Unit → Session κ → Prop}
    {change : PrivilegeRecord → PrivilegeRecord}
    (holds : ∀ session, before session →
      after () { session with privileges := change session.privileges }) :
    Triple before (recording change) after broken :=
  fun session start => holds session start

/-- A checked change of the record. -/
theorem Triple.recordingChecked {after : Unit → Session κ → Prop}
    {change : PrivilegeRecord → Except Violation PrivilegeRecord}
    (allowed : ∀ session privileges, before session → change session.privileges = .ok privileges →
      after () { session with privileges })
    (refused : ∀ session violation, before session →
      change session.privileges = .error violation → broken (.violated violation) session) :
    Triple before (recordingChecked change) after broken := by
  refine Triple.bind (fun read session => before session ∧ read = session)
    (Triple.get fun session start => ⟨start, rfl⟩) fun read => ?_
  intro session start
  obtain ⟨start, rfl⟩ := start
  cases checked : change read.privileges with
  | ok privileges => exact allowed read privileges start checked
  | error violation => exact refused read violation start checked

/-- An operation of the kernel whose failure ends the step. -/
theorem Triple.perform {action : KernelAction κ Failure α}
    (accepted : ∀ session value machine, before session →
      action session.toMachine = .ok value machine →
      after value { session with toMachine := machine })
    (refused : ∀ session failure machine, before session →
      action session.toMachine = .error failure machine →
      broken (.failed failure) { session with toMachine := machine }) :
    Triple before (perform action) after broken := by
  intro session start
  unfold Isolating.perform
  cases taken : action session.toMachine with
  | ok value machine => exact accepted session value machine start taken
  | error failure machine => exact refused session failure machine start taken

/-- An operation of the kernel whose end is looked at. -/
theorem Triple.outcome {ε : Type} {action : KernelAction κ ε α}
    {after : Except ε α → Session κ → Prop}
    (accepted : ∀ session value machine, before session →
      action session.toMachine = .ok value machine →
      after (.ok value) { session with toMachine := machine })
    (refused : ∀ session e machine, before session →
      action session.toMachine = .error e machine →
      after (.error e) { session with toMachine := machine }) :
    Triple before (outcome action) after broken := by
  intro session start
  unfold Isolating.outcome
  cases taken : action session.toMachine with
  | ok value machine => exact accepted session value machine start taken
  | error e machine => exact refused session e machine start taken

/-- What holds of the end of an operation that was looked at. -/
inductive Seen {ε : Type} (ends : α → Session κ → Prop) (stops : ε → Session κ → Prop)
    (session : Session κ) : Except ε α → Prop
  | ok {value} (holds : ends value session) : Seen ends stops session (.ok value)
  | error {e} (holds : stops e session) : Seen ends stops session (.error e)

/-- An operation that fails with an error number, which ends the step. -/
theorem Triple.attempt {purpose : Attempt} {action : KernelAction κ Errno α}
    (accepted : ∀ session value machine, before session →
      action session.toMachine = .ok value machine →
      after value { session with toMachine := machine })
    (refused : ∀ session errno machine, before session →
      action session.toMachine = .error errno machine →
      broken (.failed (.call purpose errno)) { session with toMachine := machine }) :
    Triple before (attempt purpose action) after broken := by
  refine Triple.bind
    (fun result session =>
      Seen after (fun errno => broken (.failed (.call purpose errno))) session result)
    (Triple.outcome ?_ ?_) fun result => ?_
  · exact fun session value machine start taken => .ok (accepted _ _ _ start taken)
  · exact fun session errno machine start taken => .error (refused _ _ _ start taken)
  · cases result with
    | ok value => exact Triple.pure value fun _ seen => (by cases seen; assumption)
    | error errno => exact Triple.fail _ fun _ seen => (by cases seen; assumption)

/-- An operation whose failure may be passed over. -/
theorem Triple.tolerate {tolerance : Tolerance} {purpose : Attempt}
    {action : KernelAction κ Errno α} {after : Outcome → Session κ → Prop}
    (accepted : ∀ session value machine, before session →
      action session.toMachine = .ok value machine →
      after .applied { session with toMachine := machine })
    (passed : ∀ session errno machine, before session →
      action session.toMachine = .error errno machine → tolerance.tolerates errno = true →
      after (.tolerated errno) { session with toMachine := machine })
    (refused : ∀ session errno machine, before session →
      action session.toMachine = .error errno machine → tolerance.tolerates errno = false →
      broken (.failed (.call purpose errno)) { session with toMachine := machine }) :
    Triple before (tolerate tolerance purpose action) after broken := by
  refine Triple.bind
    (fun result session => Seen after (fun failure => broken (.failed failure)) session
      (tolerance.check purpose result))
    (Triple.outcome ?_ ?_) fun result => ?_
  · exact fun session value machine start taken => .ok (accepted _ _ _ start taken)
  · intro session errno machine start taken
    have refusal : tolerance.check purpose (.error errno : Except Errno α) =
        if tolerance.tolerates errno then .ok (.tolerated errno)
        else .error (.call purpose errno) := rfl
    rw [refusal]
    by_cases listed : tolerance.tolerates errno = true
    · rw [if_pos listed]
      exact .ok (passed _ _ _ start taken listed)
    · rw [if_neg listed]
      exact .error (refused _ _ _ start taken (eq_false_of_ne_true listed))
  · cases tolerance.check purpose result with
    | ok outcome => exact Triple.pure outcome fun _ seen => (by cases seen; assumption)
    | error failure => exact Triple.fail failure fun _ seen => (by cases seen; assumption)

/-- A report. -/
theorem Triple.note {after : Unit → Session κ → Prop} (level : LogLevel) (text : String)
    (holds : ∀ session, before session →
      after () { session with toMachine := session.toMachine.report level text }) :
    Triple before (note level text) after broken :=
  fun session start => holds session start

/-- A step for each item of a list, `invariant` holding while the items of each rest are left. -/
theorem Triple.foldlM {step : β → ι → Isolating κ β} (invariant : List ι → β → Session κ → Prop)
    (each : ∀ item rest value,
      Triple (invariant (item :: rest) value) (step value item) (invariant rest) broken)
    (items : List ι) (value : β) :
    Triple (invariant items value) (items.foldlM step value) (invariant []) broken := by
  induction items generalizing value with
  | nil => exact Triple.pure value fun _ holds => holds
  | cons item rest ih =>
      rw [List.foldlM_cons]
      exact Triple.bind (invariant rest) (each item rest value) ih

end Isolating

end SelfIsolation
