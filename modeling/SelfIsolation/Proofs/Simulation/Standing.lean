import SelfIsolation.Proofs.Lifecycle.Triple
import SelfIsolation.Simulation.Kernel

/-! # Where a session on a simulated kernel stands

What the isolation steps give up shows in two places, the privilege record and the
simulated process; the journal, the log and the failures asked for do not matter to
it. A step leads from one standing to others (`SelfIsolation.Isolating.Leads`) when
it ends well only in the one, fails only in the other, and never breaks the protocol.
A call on the process is accepted only as its rule says
(`SelfIsolation.SimulatedKernel.make_ok`), and refused it leaves the process as it
was (`SelfIsolation.SimulatedKernel.make_error`).
-/

namespace SelfIsolation

namespace SimulatedKernel

variable {ε : Type} {call : SimulatedCall} {injected : Errno → ε}
  {rule : SimulatedProcess → Except ε SimulatedProcess} {kernel next : SimulatedKernel}

/-- An accepted call is journaled and follows its rule. -/
theorem make_ok (made : make call injected rule kernel = .ok () next) :
    kernel.failure call.operation = none ∧
      ∃ process, rule kernel.process = .ok process ∧ next = { kernel.enter call with process } := by
  unfold make at made
  cases asked : kernel.failure call.operation with
  | some errno => simp only [asked, reduceCtorEq] at made
  | none =>
      cases ruled : rule kernel.process with
      | error e => simp only [asked, ruled, reduceCtorEq] at made
      | ok process =>
          simp only [asked, ruled, EStateM.Result.ok.injEq, true_and] at made
          exact ⟨rfl, process, rfl, made.symm⟩

/-- A refused call is journaled and changes nothing else; the failure asked for its operation
comes before its rule. -/
theorem make_error {e : ε} (made : make call injected rule kernel = .error e next) :
    next = kernel.enter call ∧
      ((∃ errno, kernel.failure call.operation = some errno ∧ e = injected errno) ∨
        (kernel.failure call.operation = none ∧ rule kernel.process = .error e)) := by
  unfold make at made
  cases asked : kernel.failure call.operation with
  | some errno =>
      simp only [asked, EStateM.Result.error.injEq] at made
      exact ⟨made.2.symm, .inl ⟨errno, rfl, made.1.symm⟩⟩
  | none =>
      cases ruled : rule kernel.process with
      | error refusal =>
          simp only [asked, ruled, EStateM.Result.error.injEq] at made
          exact ⟨made.2.symm, .inr ⟨rfl, by rw [made.1]⟩⟩
      | ok process => simp only [asked, ruled, reduceCtorEq] at made

/-! ### How a call ends -/

/-- A failure that is asked for is met before the rule. -/
theorem make_asked {errno : Errno} (asked : kernel.failure call.operation = some errno) :
    make call injected rule kernel = .error (injected errno) (kernel.enter call) := by
  unfold make
  rw [asked]

/-- A call that the rule refuses is journaled and changes nothing else. -/
theorem make_refused {e : ε} (unasked : kernel.failure call.operation = none)
    (ruled : rule kernel.process = .error e) :
    make call injected rule kernel = .error e (kernel.enter call) := by
  unfold make
  rw [unasked]
  dsimp only
  rw [ruled]

/-- A call that the rule accepts changes the process as the rule says. -/
theorem make_accepted {process : SimulatedProcess}
    (unasked : kernel.failure call.operation = none) (ruled : rule kernel.process = .ok process) :
    make call injected rule kernel = .ok () { kernel.enter call with process } := by
  unfold make
  rw [unasked]
  dsimp only
  rw [ruled]

theorem readCaps_asked {errno : Errno} (asked : kernel.failure .readCaps = some errno) :
    readCaps kernel = .error errno (kernel.enter .readCaps) :=
  bind_of_error (make_asked asked)

theorem readCaps_unasked (unasked : kernel.failure .readCaps = none) :
    readCaps kernel = .ok kernel.process.caps (kernel.enter .readCaps) :=
  bind_of_ok (make_accepted unasked rfl)

/-- Reading tells the capability sets as they are, and only journals the call. -/
theorem readCaps_ok {sets : ProcessCaps} (read : readCaps kernel = .ok sets next) :
    sets = kernel.process.caps ∧ next = kernel.enter .readCaps := by
  cases asked : kernel.failure .readCaps with
  | some errno => cases (readCaps_asked asked).symm.trans read
  | none =>
      cases (readCaps_unasked asked).symm.trans read
      exact ⟨rfl, rfl⟩

/-- A reading that fails only journals the call. -/
theorem readCaps_error {errno : Errno} (read : readCaps kernel = .error errno next) :
    next = kernel.enter .readCaps := by
  cases asked : kernel.failure .readCaps with
  | some errno =>
      cases (readCaps_asked asked).symm.trans read
      rfl
  | none => cases (readCaps_unasked asked).symm.trans read

end SimulatedKernel

namespace KernelAction

variable {κ ε α : Type} {action : EStateM ε κ α} {machine next : Machine κ}

theorem silent_ok {value : α} (taken : silent action machine = .ok value next) :
    ∃ kernel, action machine.kernel = .ok value kernel ∧ next = { machine with kernel } := by
  unfold silent at taken
  cases acted : action machine.kernel with
  | ok found kernel =>
      simp only [acted, EStateM.Result.ok.injEq] at taken
      exact ⟨kernel, by rw [taken.1], taken.2.symm⟩
  | error e kernel => simp only [acted, reduceCtorEq] at taken

theorem silent_error {e : ε} (taken : silent action machine = .error e next) :
    ∃ kernel, action machine.kernel = .error e kernel ∧ next = { machine with kernel } := by
  unfold silent at taken
  cases acted : action machine.kernel with
  | ok found kernel => simp only [acted, reduceCtorEq] at taken
  | error found kernel =>
      simp only [acted, EStateM.Result.error.injEq] at taken
      exact ⟨kernel, by rw [taken.1], taken.2.symm⟩

end KernelAction

/-- What is said of a record and the process it is kept for. -/
abbrev Standing := PrivilegeRecord → SimulatedProcess → Prop

/-- Where a session stands. -/
def Standing.Holds (standing : Standing) (session : Session SimulatedKernel) : Prop :=
  standing session.privileges session.kernel.process

/-- A single record and a single process. -/
def Standing.exactly (record : PrivilegeRecord) (process : SimulatedProcess) : Standing :=
  fun record' process' => record' = record ∧ process' = process

/-- What holds of one record and one process is all there is to show of exactly these. -/
theorem Standing.exactly_elim {record : PrivilegeRecord} {process : SimulatedProcess}
    {holds : Standing} (here : holds record process) :
    ∀ record' process', exactly record process record' process' → holds record' process' := by
  intro record' process' same
  obtain ⟨rfl, rfl⟩ := same
  exact here

namespace Isolating

open SimulatedKernel

variable {α β ι : Type} {before stuck : Standing} {after : α → Standing}

/-- Taken in one standing, a step ends well only in the second, fails only in the third, and never
breaks the protocol. -/
def Leads (before : Standing) (step : Isolating SimulatedKernel α) (after : α → Standing)
    (stuck : Standing) : Prop :=
  Triple before.Holds step (fun value => (after value).Holds) fun fault session =>
    (∃ failure, fault = .failed failure) ∧ stuck.Holds session

/-- A step may be followed from each single start. -/
theorem Leads.each {step : Isolating SimulatedKernel α}
    (leads : ∀ record process, before record process →
      Leads (Standing.exactly record process) step after stuck) :
    Leads before step after stuck :=
  fun session start => leads _ _ start session ⟨rfl, rfl⟩

/-- Steps one after the other lead where the last one does. -/
theorem Leads.bind (middle : β → Standing) {first : Isolating SimulatedKernel β}
    {second : β → Isolating SimulatedKernel α} (head : Leads before first middle stuck)
    (tail : ∀ value, Leads (middle value) (second value) after stuck) :
    Leads before (first >>= second) after stuck :=
  Triple.bind (fun value => (middle value).Holds) head tail

theorem Leads.pure (value : α) (holds : ∀ record process, before record process →
    after value record process) : Leads before (pure value) after stuck :=
  Triple.pure value fun _ start => holds _ _ start

theorem Leads.weaken {before' stuck' : Standing} {after' : α → Standing}
    {step : Isolating SimulatedKernel α} (leads : Leads before step after stuck)
    (starts : ∀ record process, before' record process → before record process)
    (ends : ∀ value record process, after value record process → after' value record process)
    (stops : ∀ record process, stuck record process → stuck' record process) :
    Leads before' step after' stuck' :=
  Triple.weaken leads (fun _ start => starts _ _ start) (fun _ _ holds => ends _ _ _ holds)
    fun _ _ holds => ⟨holds.1, stops _ _ holds.2⟩

theorem Leads.stopping {stuck' : Standing} {step : Isolating SimulatedKernel α}
    (leads : Leads before step after stuck)
    (stops : ∀ record process, stuck record process → stuck' record process) :
    Leads before step after stuck' :=
  leads.weaken (fun _ _ start => start) (fun _ _ _ holds => holds) stops

/-- A failure leads nowhere but where the step may be stuck. -/
theorem Leads.fail (failure : Failure)
    (holds : ∀ record process, before record process → stuck record process) :
    Leads before (fail failure) after stuck :=
  Triple.fail failure fun _ start => ⟨⟨failure, rfl⟩, holds _ _ start⟩

/-- A report leaves a session where it stands. -/
theorem Leads.note {after : Unit → Standing} (level : LogLevel) (text : String)
    (holds : ∀ record process, before record process → after () record process) :
    Leads before (note level text) after stuck :=
  Triple.note level text fun _ start => holds _ _ start

theorem Leads.noting {level : LogLevel} {text : String}
    {rest : Unit → Isolating SimulatedKernel α} (tail : Leads before (rest ()) after stuck) :
    Leads before (Isolating.note level text >>= rest) after stuck :=
  Leads.bind (fun _ => before) (Leads.note level text fun _ _ holds => holds) fun _ => tail

/-- Reports change nothing. -/
theorem Leads.notes (entries : List LogRecord) :
    Leads before (entries.forM fun entry => Isolating.note entry.level entry.text)
      (fun _ => before) stuck := by
  induction entries with
  | nil => exact Leads.pure () fun _ _ holds => holds
  | cons entry entries ih =>
      exact Leads.bind (fun _ => before) (Leads.note _ _ fun _ _ holds => holds) fun _ => ih

/-- A standing that every step of a list keeps. -/
theorem Leads.foldlM {step : β → ι → Isolating SimulatedKernel β} (items : List ι)
    (each : ∀ value item, Leads before (step value item) (fun _ => before) stuck) (value : β) :
    Leads before (items.foldlM step value) (fun _ => before) stuck :=
  Triple.foldlM (fun _ _ => before.Holds) (fun item _ value => each value item) items value

/-- Recording leads to where the changed record stands. -/
theorem Leads.recording {after : Unit → Standing} {change : PrivilegeRecord → PrivilegeRecord}
    (holds : ∀ record process, before record process → after () (change record) process) :
    Leads before (recording change) after stuck :=
  Triple.recording fun _ start => holds _ _ start

theorem Leads.reading {rest : Session SimulatedKernel → Isolating SimulatedKernel α}
    (tail : ∀ session, Leads before (rest session) after stuck) :
    Leads before (get >>= rest) after stuck :=
  Leads.bind (fun _ => before) (Triple.get fun _ start => start) tail

/-- A checked change of the record has to be allowed. -/
theorem Leads.recordingChecked {after : Unit → Standing}
    {change : PrivilegeRecord → Except Violation PrivilegeRecord}
    (allowed : ∀ record process, before record process →
      ∃ changed, change record = .ok changed ∧ after () changed process) :
    Leads before (recordingChecked change) after stuck := by
  refine Triple.recordingChecked ?_ ?_
  · intro session privileges start checked
    obtain ⟨changed, same, holds⟩ := allowed _ _ start
    cases checked.symm.trans same
    exact holds
  · intro session violation start checked
    obtain ⟨changed, same, _⟩ := allowed _ _ start
    cases checked.symm.trans same

/-- A look at the process. -/
theorem Leads.observe {observation : SimulatedProcess → α}
    (holds : ∀ record process, before record process → after (observation process) record process) :
    Leads before
      (observe fun machine => (observation machine.kernel.process, machine)) after stuck :=
  Triple.observe fun _ start => holds _ _ start

/-- A call on the process whose refusal fails the step. -/
theorem Leads.perform {after : Unit → Standing} {call : SimulatedCall}
    {rule : SimulatedProcess → Except Failure SimulatedProcess}
    (refused : ∀ record process, before record process → stuck record process)
    (accepted : ∀ record process next, before record process → rule process = .ok next →
      after () record next) :
    Leads before (perform (.silent (composite call rule))) after stuck := by
  refine Triple.perform ?_ ?_
  · intro session value machine start taken
    obtain ⟨kernel, made, rfl⟩ := KernelAction.silent_ok taken
    obtain ⟨_, process, ruled, rfl⟩ := make_ok made
    exact accepted _ _ _ start ruled
  · intro session failure machine start taken
    obtain ⟨kernel, made, rfl⟩ := KernelAction.silent_error taken
    obtain ⟨rfl, _⟩ := make_error made
    exact ⟨⟨failure, rfl⟩, refused _ _ start⟩

/-- The process gives something up, and the record says so afterwards. -/
theorem Leads.givesUp {after : Unit → Standing} {call : SimulatedCall}
    {rule : SimulatedProcess → Except Failure SimulatedProcess}
    {noted : PrivilegeRecord → PrivilegeRecord} (change : SimulatedProcess → SimulatedProcess)
    (refused : ∀ record process, before record process → stuck record process)
    (accepted : ∀ process next, rule process = .ok next → next = change process)
    (given : ∀ record process, before record process → after () (noted record) (change process)) :
    Leads before (do
      Isolating.perform (.silent (composite call rule))
      Isolating.recording noted) after stuck := by
  refine Leads.bind (fun _ record process => after () (noted record) process)
    (Leads.perform refused ?_) fun _ => Leads.recording fun _ _ holds => holds
  intro record process next start ruled
  rw [accepted process next ruled]
  exact given record process start

/-- Giving something up, and then the rest of a step. -/
theorem Leads.givingUp (middle : Standing) {call : SimulatedCall}
    {rule : SimulatedProcess → Except Failure SimulatedProcess}
    {noted : PrivilegeRecord → PrivilegeRecord} {rest : Isolating SimulatedKernel α}
    (change : SimulatedProcess → SimulatedProcess)
    (refused : ∀ record process, before record process → stuck record process)
    (accepted : ∀ process next, rule process = .ok next → next = change process)
    (given : ∀ record process, before record process → middle (noted record) (change process))
    (tail : Leads middle rest after stuck) :
    Leads before (do
      Isolating.perform (.silent (composite call rule))
      Isolating.recording noted
      rest) after stuck := by
  rw [← bind_assoc]
  exact Leads.bind (fun _ => middle) (Leads.givesUp change refused accepted given) fun _ => tail

/-- A call that its rule accepts is only refused where a failure is asked for. -/
theorem Triple.perform_accepted {holds : Session SimulatedKernel → Prop}
    {after : Unit → Session SimulatedKernel → Prop} {call : SimulatedCall}
    {rule : SimulatedProcess → Except Failure SimulatedProcess}
    (unasked : ∀ session, holds session → session.kernel.failure call.operation = none)
    (accepted : ∀ session, holds session → ∃ process, rule session.kernel.process = .ok process ∧
      after () { session with kernel := { session.kernel.enter call with process } }) :
    Triple holds (Isolating.perform (.silent (composite call rule))) after fun _ _ => False := by
  refine Triple.perform ?_ ?_
  · intro session value machine start taken
    obtain ⟨kernel, made, rfl⟩ := KernelAction.silent_ok taken
    obtain ⟨_, process, ruled, rfl⟩ := make_ok made
    obtain ⟨other, same, ends⟩ := accepted session start
    cases ruled.symm.trans same
    exact ends
  · intro session failure machine start taken
    obtain ⟨kernel, made, rfl⟩ := KernelAction.silent_error taken
    obtain ⟨other, same, _⟩ := accepted session start
    obtain ⟨_, ⟨errno, asked, _⟩ | ⟨_, ruled⟩⟩ := make_error made
    · cases asked.symm.trans (unasked session start)
    · cases ruled.symm.trans same

/-- A call on the process whose error number fails the step. -/
theorem Leads.attempt {after : Unit → Standing} {purpose : Attempt} {call : SimulatedCall}
    {rule : SimulatedProcess → Except Errno SimulatedProcess}
    (refused : ∀ record process, before record process → stuck record process)
    (accepted : ∀ record process next, before record process → rule process = .ok next →
      after () record next) :
    Leads before (attempt purpose (.silent (primitive call rule))) after stuck := by
  refine Triple.attempt ?_ ?_
  · intro session value machine start taken
    obtain ⟨kernel, made, rfl⟩ := KernelAction.silent_ok taken
    obtain ⟨_, process, ruled, rfl⟩ := make_ok made
    exact accepted _ _ _ start ruled
  · intro session errno machine start taken
    obtain ⟨kernel, made, rfl⟩ := KernelAction.silent_error taken
    obtain ⟨rfl, _⟩ := make_error made
    exact ⟨⟨_, rfl⟩, refused _ _ start⟩

/-- The capability sets are read as they are. -/
theorem Leads.readCaps {after : ProcessCaps → Standing} {purpose : Attempt}
    (refused : ∀ record process, before record process → stuck record process)
    (accepted : ∀ record process, before record process → after process.caps record process) :
    Leads before (Isolating.attempt purpose Kernel.readCaps) after stuck := by
  refine Triple.attempt ?_ ?_
  · intro session sets machine start taken
    obtain ⟨kernel, read, rfl⟩ := KernelAction.silent_ok taken
    obtain ⟨rfl, rfl⟩ := readCaps_ok read
    exact accepted _ _ start
  · intro session errno machine start taken
    obtain ⟨kernel, read, rfl⟩ := KernelAction.silent_error taken
    cases readCaps_error read
    exact ⟨⟨_, rfl⟩, refused _ _ start⟩

/-- A call on the process whose error number may be passed over. -/
theorem Leads.tolerate {after : Outcome → Standing} {tolerance : Tolerance} {purpose : Attempt}
    {call : SimulatedCall} {rule : SimulatedProcess → Except Errno SimulatedProcess}
    (refused : ∀ record process, before record process → stuck record process)
    (accepted : ∀ record process next, before record process → rule process = .ok next →
      after .applied record next)
    (passed : ∀ record process errno, before record process →
      after (.tolerated errno) record process) :
    Leads before (tolerate tolerance purpose (.silent (primitive call rule))) after stuck := by
  refine Triple.tolerate ?_ ?_ ?_
  · intro session value machine start taken
    obtain ⟨kernel, made, rfl⟩ := KernelAction.silent_ok taken
    obtain ⟨_, process, ruled, rfl⟩ := make_ok made
    exact accepted _ _ _ start ruled
  · intro session errno machine start taken _
    obtain ⟨kernel, made, rfl⟩ := KernelAction.silent_error taken
    obtain ⟨rfl, _⟩ := make_error made
    exact passed _ _ _ start
  · intro session errno machine start taken _
    obtain ⟨kernel, made, rfl⟩ := KernelAction.silent_error taken
    obtain ⟨rfl, _⟩ := make_error made
    exact ⟨⟨_, rfl⟩, refused _ _ start⟩

end Isolating

end SelfIsolation
