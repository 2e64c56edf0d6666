import SelfIsolation.Proofs.Simulation.Change

/-! # Runs of a simulated kernel

Anything may be asked of a simulated kernel in any order, with any failures in between
(`SelfIsolation.SimulatedKernel.Run`). Each request changes the process as far as it is
entitled to, unless it enters a user namespace (`SelfIsolation.Request.next_changes`),
so a kernel only narrows (`SelfIsolation.SimulatedKernel.Run.onlyNarrows`).
-/

namespace SelfIsolation

open SimulatedKernel (submit answered answered_ok answered_error make make_ok make_error composite
  primitive readCaps_ok readCaps_error)

/-! ## Calls with any failures -/

/-- An action on a kernel follows a rule for its process where it is accepted, and otherwise leaves
the process alone. -/
def SimulatedKernel.Obeys {ε : Type} (action : EStateM ε SimulatedKernel Unit)
    (rule : SimulatedProcess → Except ε SimulatedProcess) : Prop :=
  ∀ kernel, match action kernel with
    | .ok _ next => rule kernel.process = .ok next.process
    | .error _ next => next.process = kernel.process

namespace SimulatedKernel

variable {ε : Type} {errno? : ε → Option Errno} {call : SimulatedCall} {injected : Errno → ε}
  {rule : SimulatedProcess → Except ε SimulatedProcess}

/-- An operation is answered by its rule, and leaves the process where it is refused. -/
theorem make_answered :
    Obeys (answered errno? (.silent (make call injected rule)))
      fun process => (rule process).mapError errno? := by
  intro kernel
  cases made : make call injected rule kernel with
  | ok value next =>
      obtain ⟨_, process, ruled, rfl⟩ := make_ok made
      rw [answered_ok made]
      dsimp only
      rw [ruled]
      rfl
  | error e next =>
      obtain ⟨rfl, _⟩ := make_error made
      rw [answered_error made]
      rfl

/-- Reading the capability sets leaves the process as it is. -/
theorem readCaps_answered : Obeys (answered some (.silent readCaps)) .ok := by
  intro kernel
  cases read : readCaps kernel with
  | ok sets next =>
      obtain ⟨_, rfl⟩ := readCaps_ok read
      rw [answered_ok read]
      rfl
  | error errno next =>
      cases readCaps_error read
      rw [answered_error read]
      rfl

/-- Whatever failures are asked for, an accepted call follows the rule for it. -/
theorem submit_obeys (call : SimulatedCall) : Obeys (submit call) (·.answer call) := by
  cases call with
  | readCaps => exact readCaps_answered
  | writeCaps sets => exact make_answered
  | dropBounding bit => exact make_answered
  | closeDescriptors keep => exact make_answered
  | clearGroups => exact make_answered
  | setGid gid => exact make_answered
  | setUid uid => exact make_answered
  | joinUserNamespace path => exact make_answered
  | createUserNamespace uid gid => exact make_answered
  | unshare set => exact make_answered
  | isolateFilesystem root => exact make_answered
  | disableCoreDumps => exact make_answered
  | installFilter profile => exact make_answered

/-- A request that is accepted is a change, or an entry into a user namespace. -/
theorem submit_changes {kernel next : SimulatedKernel}
    (answer : submit call kernel = .ok () next) :
    kernel.process.Change next.process ∨
      (call.entersUserNamespace = true ∧ kernel.process.Entry next.process) := by
  have obeyed := submit_obeys call kernel
  rw [answer] at obeyed
  exact SimulatedProcess.answer_changes obeyed

/-- A request that is refused leaves the process as it is. -/
theorem submit_spares {kernel next : SimulatedKernel} {refusal : Option Errno}
    (answer : submit call kernel = .error refusal next) : next.process = kernel.process := by
  have obeyed := submit_obeys call kernel
  rw [answer] at obeyed
  exact obeyed

end SimulatedKernel

/-! ## Requests -/

/-- What can be asked of a kernel that may change it. The effective identity is read without a
request. -/
inductive Request where
  | plain (call : SimulatedCall)
  /-- Installs a filter with names of its own, of which a call only tells the profile. -/
  | install (filter : Filter)
  | boundingSet
  | inInitialUserNamespace
  deriving DecidableEq

namespace Request

/-- Puts a request to the kernel. -/
def submit : Request → EStateM (Option Errno) SimulatedKernel Unit
  | .plain call => SimulatedKernel.submit call
  | .install filter => answered Failure.errno? (Kernel.installFilter filter)
  | .boundingSet => fun kernel => .ok () (Kernel.boundingSet { kernel }).2.kernel
  | .inInitialUserNamespace =>
    fun kernel => .ok () (Kernel.inInitialUserNamespace { kernel }).2.kernel

/-- How a kernel answers a request. -/
def answer (request : Request) (kernel : SimulatedKernel) : CallAnswer :=
  match request.submit kernel with
  | .ok _ _ => .ok ()
  | .error refusal _ => .error refusal

/-- The kernel after a request, however it is answered. -/
def next (request : Request) (kernel : SimulatedKernel) : SimulatedKernel :=
  match request.submit kernel with
  | .ok _ next => next
  | .error _ next => next

/-- Holds of the requests to enter a user namespace. -/
def entersUserNamespace : Request → Bool
  | .plain call => call.entersUserNamespace
  | _ => false

/-- **Step.** A request changes the process as far as it is entitled to, if at all, or it is one to
enter a user namespace and is granted. -/
theorem next_changes (request : Request) (kernel : SimulatedKernel) :
    kernel.process.Change (request.next kernel).process ∨
      (request.entersUserNamespace = true ∧ request.answer kernel = .ok () ∧
        kernel.process.Entry (request.next kernel).process) := by
  unfold next answer
  cases request with
  | plain call =>
      dsimp only [submit]
      cases answered : SimulatedKernel.submit call kernel with
      | ok value next =>
          exact (SimulatedKernel.submit_changes answered).imp_right
            fun entered => ⟨entered.1, rfl, entered.2⟩
      | error refusal next =>
          have same := SimulatedKernel.submit_spares answered
          dsimp only
          rw [same]
          exact .inl .nothing
  | install filter =>
      have obeyed : SimulatedKernel.Obeys (answered Failure.errno? (Kernel.installFilter filter))
          fun process => (process.installFilter filter).mapError Failure.errno? :=
        SimulatedKernel.make_answered
      have obeyed := obeyed kernel
      dsimp only [submit]
      cases installed : answered Failure.errno? (Kernel.installFilter filter) kernel with
      | ok value next =>
          rw [installed] at obeyed
          exact .inl (SimulatedProcess.installFilter_changes
            (SimulatedProcess.ok_of_mapError obeyed))
      | error refusal next =>
          rw [installed] at obeyed
          dsimp only at obeyed ⊢
          rw [obeyed]
          exact .inl .nothing
  | boundingSet => exact .inl .nothing
  | inInitialUserNamespace => exact .inl .nothing

end Request

/-! ## Runs -/

namespace SimulatedKernel

/-- A run of a kernel: requests with their answers, first to last, and the kernel they lead to.
Between requests a failure may be asked for an operation, or taken back. -/
inductive Run (first : SimulatedKernel) : List (Request × CallAnswer) → SimulatedKernel → Prop
  | start : Run first [] first
  | request {requests kernel} (run : Run first requests kernel) (request : Request) :
      Run first (requests ++ [(request, request.answer kernel)]) (request.next kernel)
  | fail {requests kernel} (run : Run first requests kernel) (operation : Operation)
      (errno : Errno) : Run first requests (kernel.fail operation errno)
  | clearFailure {requests kernel} (run : Run first requests kernel) (operation : Operation) :
      Run first requests (kernel.clearFailure operation)

/-- No request to enter a user namespace was granted. -/
def Stays (requests : List (Request × CallAnswer)) : Prop :=
  ∀ entry ∈ requests, entry.1.entersUserNamespace = true → entry.2.isOk = false

instance (requests : List (Request × CallAnswer)) : Decidable (Stays requests) :=
  List.decidableBAll _ requests

/-- Requests stay in a user namespace if none that would enter one is granted. -/
theorem stays_concat {requests : List (Request × CallAnswer)} {entry : Request × CallAnswer} :
    Stays (requests ++ [entry]) ↔
      Stays requests ∧ (entry.1.entersUserNamespace = true → entry.2.isOk = false) := by
  unfold Stays
  rw [List.forall_mem_append, List.forall_mem_singleton]

namespace Run

variable {first last : SimulatedKernel} {requests : List (Request × CallAnswer)}

/-- What every change and every entry of a process keeps holds after every run. -/
theorem keeps (holds : SimulatedProcess → Prop) (run : first.Run requests last)
    (begins : holds first.process)
    (changed : ∀ process next, holds process → process.Change next → holds next)
    (entered : ∀ process next, holds process → process.Entry next → holds next) :
    holds last.process := by
  induction run with
  | start => exact begins
  | request run request ih =>
      rcases request.next_changes _ with change | ⟨-, -, entry⟩
      · exact changed _ _ ih change
      · exact entered _ _ ih entry
  | fail run operation errno ih => exact ih
  | clearFailure run operation ih => exact ih

/-- What every change of a process keeps holds after every run that enters no user namespace. -/
theorem keeps_staying (holds : SimulatedProcess → Prop) (run : first.Run requests last)
    (stays : Stays requests) (begins : holds first.process)
    (changed : ∀ process next, holds process → process.Change next → holds next) :
    holds last.process := by
  induction run with
  | start => exact begins
  | request run request ih =>
      obtain ⟨stays, refused⟩ := stays_concat.mp stays
      rcases request.next_changes _ with change | ⟨enters, granted, -⟩
      · exact changed _ _ (ih stays) change
      · rw [granted] at refused
        cases refused enters
  | fail run operation errno ih => exact ih stays
  | clearFailure run operation ih => exact ih stays

/-- Whatever is requested, the process is narrowed. -/
theorem narrowed (run : first.Run requests last) : first.process.Narrowed last.process :=
  run.keeps first.process.Narrowed (.refl _)
    (fun _ _ narrowed change => narrowed.trans change.narrowed)
    fun _ _ narrowed entry => narrowed.trans entry.narrowed

/-- Whatever is requested, the effective set stays permitted. -/
theorem within (run : first.Run requests last) (within : first.process.Within) :
    last.process.Within :=
  run.keeps SimulatedProcess.Within within (fun _ _ within change => change.within within)
    fun _ _ _ entry => entry.within

/-- Where no user namespace is entered, the capability sets are narrowed. -/
theorem capsNarrowed (run : first.Run requests last) (stays : Stays requests) :
    first.process.CapsNarrowed last.process := by
  have narrowed := run.keeps_staying
    (fun process => first.process.Narrowed process ∧ first.process.CapsNarrowed process) stays
    ⟨.refl _, .refl _⟩ fun _ _ narrowed change =>
      ⟨narrowed.1.trans change.narrowed,
        narrowed.2.trans narrowed.1.bounding change.capsNarrowed⟩
  exact narrowed.2

/-- **Narrowing.** Whatever is asked of a kernel, nothing that its process gave up for good comes
back, and where it enters no user namespace, neither do capabilities. -/
theorem onlyNarrows (run : first.Run requests last) (within : first.process.Within) :
    last.process.Within ∧ first.process.Narrowed last.process ∧
      (Stays requests → first.process.CapsNarrowed last.process) :=
  ⟨run.within within, run.narrowed, run.capsNarrowed⟩

/-- The superuser gives up its capabilities and its identity and has none left. -/
theorem onlyNarrows_root : ∃ requests last,
    root.Run requests last ∧ Stays requests ∧ root.process.Within ∧
      last.process.caps.permitted = ∅ ∧ last.process.Within ∧
      root.process.Narrowed last.process ∧ root.process.CapsNarrowed last.process := by
  -- The superuser becomes someone else, and cannot get anything back by a namespace.
  have begun : root.Run [] root := .start
  have run := ((begun.request (.plain (.setUid 1000))).fail .createUserNamespace .eperm).request
    (.plain (.createUserNamespace 1000 1000))
  obtain ⟨within, narrowed, caps⟩ := run.onlyNarrows (by decide)
  exact ⟨_, _, run, by decide, by decide, by decide, within, narrowed, caps (by decide)⟩

end Run

end SimulatedKernel

end SelfIsolation
