import SelfIsolation.Proofs.Kernel.Ending
import SelfIsolation.Proofs.Simulation.Run

/-! # Operations that fail change nothing

Every journaled operation of a simulated kernel (`SelfIsolation.SimulatedKernel.Journaled`)
is one call and the kernel's verdict on it (`SelfIsolation.SimulatedKernel.ruled`). The
verdict is reached before anything but the journal changes, and by nothing but the
process and the failures asked for. So a failing operation leaves no trace but its call,
and a kernel whose failure was taken back goes on as one that never met it
(`SelfIsolation.SimulatedKernel.Journaled.atomic`).
-/

namespace SelfIsolation

namespace SimulatedKernel

/-! ## Calls and verdicts -/

section Ruled

variable {ε α : Type} (call : SimulatedCall) (told : Errno → ε)
  (rule : SimulatedProcess → Except ε (α × SimulatedProcess))

/-- How a kernel decides on a call. The failure asked for its operation comes before the rule. -/
def verdict (kernel : SimulatedKernel) : Except ε (α × SimulatedProcess) :=
  match kernel.failure call.operation with
  | some errno => .error (told errno)
  | none => rule kernel.process

/-- An operation that journals its call, and then does what the verdict on it says. -/
def ruled : KernelAction SimulatedKernel ε α := fun machine =>
  match verdict call told rule machine.kernel with
  | .ok (value, process) =>
    .ok value { machine with kernel := { machine.kernel.enter call with process } }
  | .error e => .error e { machine with kernel := machine.kernel.enter call }

variable {call told rule}

/-- A failure that is asked for is the verdict. -/
theorem verdict_asked {kernel : SimulatedKernel} {errno : Errno}
    (asked : kernel.failure call.operation = some errno) :
    verdict call told rule kernel = .error (told errno) := by
  unfold verdict
  rw [asked]

/-- Where no failure is asked for, the rule gives the verdict. -/
theorem verdict_unasked {kernel : SimulatedKernel}
    (unasked : kernel.failure call.operation = none) :
    verdict call told rule kernel = rule kernel.process := by
  unfold verdict
  rw [unasked]

/-- An operation with a verdict in its favour changes the process as that says, and journals its
call. -/
theorem ruled_ends_of_ok {machine : Machine SimulatedKernel} {value : α}
    {process : SimulatedProcess}
    (accepted : verdict call told rule machine.kernel = .ok (value, process)) :
    (ruled call told rule).ending machine = .ok value ∧
      (ruled call told rule).reached machine =
        { machine with kernel := { machine.kernel.enter call with process } } := by
  refine KernelAction.ends_of_ok ?_
  unfold ruled
  rw [accepted]

/-- An operation with a verdict against it fails as that says, and only journals its call. -/
theorem ruled_ends_of_error {machine : Machine SimulatedKernel} {e : ε}
    (refused : verdict call told rule machine.kernel = .error e) :
    (ruled call told rule).ending machine = .error e ∧
      (ruled call told rule).reached machine =
        { machine with kernel := machine.kernel.enter call } := by
  refine KernelAction.ends_of_error ?_
  unfold ruled
  rw [refused]

end Ruled

/-- A call without a value is ruled by what becomes of the process. -/
theorem silent_make {ε : Type} (call : SimulatedCall) (told : Errno → ε)
    (rule : SimulatedProcess → Except ε SimulatedProcess) :
    KernelAction.silent (make call told rule) =
      ruled call told fun process => (rule process).map fun next => ((), next) := by
  funext machine
  unfold KernelAction.silent ruled
  cases asked : machine.kernel.failure call.operation with
  | some errno => rw [make_asked asked, verdict_asked asked]
  | none =>
      rw [verdict_unasked asked]
      cases ruled : rule machine.kernel.process with
      | ok process =>
          rw [make_accepted asked ruled]
          rfl
      | error e =>
          rw [make_refused asked ruled]
          rfl

/-- Reading the capability sets is ruled by no check. -/
theorem silent_readCaps :
    KernelAction.silent readCaps =
      ruled .readCaps id fun process => .ok (process.caps, process) := by
  funext machine
  unfold KernelAction.silent ruled
  cases asked : machine.kernel.failure .readCaps with
  | some errno =>
      rw [readCaps_asked asked, verdict_asked asked]
      rfl
  | none =>
      rw [readCaps_unasked asked, verdict_unasked asked]
      rfl

/-- The journaled operations of a kernel, each with its call and with how it tells the error number
of a failure that was asked for. -/
inductive Journaled : {ε α : Type} → KernelAction SimulatedKernel ε α → SimulatedCall →
    (Errno → ε) → Prop
  | readCaps : Journaled Kernel.readCaps .readCaps id
  | writeCaps (sets : ProcessCaps) : Journaled (Kernel.writeCaps sets) (.writeCaps sets) id
  | dropBounding (bit : Nat) : Journaled (Kernel.dropBounding bit) (.dropBounding bit) id
  | closeDescriptors (keep : Option Int32) :
      Journaled (Kernel.closeDescriptors keep) (.closeDescriptors keep)
        (.call (.simulated .closeDescriptors))
  | clearGroups : Journaled Kernel.clearGroups .clearGroups id
  | setGid (gid : UInt32) : Journaled (Kernel.setGid gid) (.setGid gid) id
  | setUid (uid : UInt32) : Journaled (Kernel.setUid uid) (.setUid uid) id
  | joinUserNamespace (path : String) :
      Journaled (Kernel.joinUserNamespace path) (.joinUserNamespace path)
        (.call (.simulated .joinUserNamespace))
  | createUserNamespace (uid gid : UInt32) :
      Journaled (Kernel.createUserNamespace uid gid) (.createUserNamespace uid gid)
        (.call (.simulated .createUserNamespace))
  | unshare (set : NamespaceSet) :
      Journaled (Kernel.unshare set) (.unshare set) (.call (.simulated .unshare))
  | isolateFilesystem (root : EmptyRoot) :
      Journaled (Kernel.isolateFilesystem root) (.isolateFilesystem root)
        (.call (.simulated .isolateFilesystem))
  | disableCoreDumps :
      Journaled Kernel.disableCoreDumps .disableCoreDumps (.call (.simulated .disableCoreDumps))
  | installFilter (filter : Filter) :
      Journaled (Kernel.installFilter filter) (.installFilter filter.profile)
        (.call (.simulated .installFilter))

section Journaled

variable {ε α : Type} {action : KernelAction SimulatedKernel ε α} {call : SimulatedCall}
  {told : Errno → ε}

/-- Every journaled operation is ruled by the verdict on its call. -/
theorem Journaled.exists_rule (journaled : Journaled action call told) :
    ∃ rule, action = ruled call told rule := by
  cases journaled with
  | readCaps => exact ⟨_, silent_readCaps⟩
  | writeCaps sets => exact ⟨_, silent_make _ _ _⟩
  | dropBounding bit => exact ⟨_, silent_make _ _ _⟩
  | closeDescriptors keep => exact ⟨_, silent_make _ _ _⟩
  | clearGroups => exact ⟨_, silent_make _ _ _⟩
  | setGid gid => exact ⟨_, silent_make _ _ _⟩
  | setUid uid => exact ⟨_, silent_make _ _ _⟩
  | joinUserNamespace path => exact ⟨_, silent_make _ _ _⟩
  | createUserNamespace uid gid => exact ⟨_, silent_make _ _ _⟩
  | unshare set => exact ⟨_, silent_make _ _ _⟩
  | isolateFilesystem root => exact ⟨_, silent_make _ _ _⟩
  | disableCoreDumps => exact ⟨_, silent_make _ _ _⟩
  | installFilter filter => exact ⟨_, silent_make _ _ _⟩

variable {machine : Machine SimulatedKernel}

/-- Whatever it comes to, the call is journaled and the failures asked for stay. -/
theorem Journaled.records (journaled : Journaled action call told) :
    (action.reached machine).kernel.journal = machine.kernel.journal ++ [call] ∧
      (action.reached machine).kernel.failure = machine.kernel.failure := by
  obtain ⟨rule, rfl⟩ := journaled.exists_rule
  cases decided : verdict call told rule machine.kernel with
  | ok granted =>
      rw [(ruled_ends_of_ok decided).2]
      exact ⟨rfl, rfl⟩
  | error e =>
      rw [(ruled_ends_of_error decided).2]
      exact ⟨rfl, rfl⟩

/-- A failing operation leaves its call in the journal and nothing else. -/
theorem Journaled.spares (journaled : Journaled action call told) {e : ε}
    (failed : action.ending machine = .error e) :
    action.reached machine = { machine with kernel := machine.kernel.enter call } := by
  obtain ⟨rule, rfl⟩ := journaled.exists_rule
  cases decided : verdict call told rule machine.kernel with
  | ok granted => cases (ruled_ends_of_ok decided).1.symm.trans failed
  | error e => exact (ruled_ends_of_error decided).2

/-- A failure asked for comes before everything else. -/
theorem Journaled.fails (journaled : Journaled action call told) {errno : Errno}
    (asked : machine.kernel.failure call.operation = some errno) :
    action.ending machine = .error (told errno) := by
  obtain ⟨rule, rfl⟩ := journaled.exists_rule
  exact (ruled_ends_of_error (verdict_asked asked)).1

/-- What an operation comes to is decided by the process and by whether its failure is asked for. -/
theorem Journaled.congr (journaled : Journaled action call told) {other : Machine SimulatedKernel}
    (process : machine.kernel.process = other.kernel.process)
    (failure : machine.kernel.failure call.operation = other.kernel.failure call.operation) :
    action.ending machine = action.ending other ∧
      (action.reached machine).kernel.process = (action.reached other).kernel.process := by
  obtain ⟨rule, rfl⟩ := journaled.exists_rule
  have same : verdict call told rule machine.kernel = verdict call told rule other.kernel := by
    unfold verdict
    rw [process, failure]
  cases decided : verdict call told rule other.kernel with
  | ok granted =>
      obtain ⟨ended, left⟩ := ruled_ends_of_ok (same.trans decided)
      obtain ⟨ended', left'⟩ := ruled_ends_of_ok decided
      rw [ended, ended', left, left']
      exact ⟨rfl, rfl⟩
  | error e =>
      obtain ⟨ended, left⟩ := ruled_ends_of_error (same.trans decided)
      obtain ⟨ended', left'⟩ := ruled_ends_of_error decided
      rw [ended, ended', left, left']
      exact ⟨rfl, process⟩

end Journaled

end SimulatedKernel

/-! ## Requests -/

namespace Request

/-- The call that a request puts into the journal, if it is not just a question. -/
def call? : Request → Option SimulatedCall
  | .plain call => some call
  | .install filter => some (.installFilter filter.profile)
  | .boundingSet | .inInitialUserNamespace => none

/-- The operation that a request asks for. -/
def operation? (request : Request) : Option Operation := request.call?.map SimulatedCall.operation

/-- A question leaves the kernel as it is. -/
theorem next_question {request : Request} (question : request.call? = none)
    (kernel : SimulatedKernel) : request.next kernel = kernel := by
  cases request with
  | plain call => cases question
  | install filter => cases question
  | boundingSet => rfl
  | inInitialUserNamespace => rfl

/-- A request leaves what its operation leaves. -/
theorem next_of_answered {ε α : Type} {request : Request} {errno? : ε → Option Errno}
    {action : KernelAction SimulatedKernel ε α}
    (submitted : request.submit = SimulatedKernel.answered errno? action)
    (kernel : SimulatedKernel) :
    request.next kernel = (action.reached { kernel }).kernel := by
  unfold next
  rw [submitted]
  unfold SimulatedKernel.answered KernelAction.reached
  cases action { kernel } <;> rfl

/-- A request that is not just a question is one for a journaled operation. -/
theorem next_journaled {request : Request} {call : SimulatedCall}
    (calls : request.call? = some call) :
    ∃ (ε α : Type) (action : KernelAction SimulatedKernel ε α) (told : Errno → ε),
      SimulatedKernel.Journaled action call told ∧
        ∀ kernel, request.next kernel = (action.reached { kernel }).kernel := by
  cases request with
  | install filter =>
      cases calls
      exact ⟨_, _, _, _, .installFilter filter, next_of_answered rfl⟩
  | boundingSet => cases calls
  | inInitialUserNamespace => cases calls
  | plain call =>
      cases calls
      cases call with
      | readCaps => exact ⟨_, _, _, _, .readCaps, next_of_answered rfl⟩
      | writeCaps sets => exact ⟨_, _, _, _, .writeCaps sets, next_of_answered rfl⟩
      | dropBounding bit => exact ⟨_, _, _, _, .dropBounding bit, next_of_answered rfl⟩
      | closeDescriptors keep => exact ⟨_, _, _, _, .closeDescriptors keep, next_of_answered rfl⟩
      | clearGroups => exact ⟨_, _, _, _, .clearGroups, next_of_answered rfl⟩
      | setGid gid => exact ⟨_, _, _, _, .setGid gid, next_of_answered rfl⟩
      | setUid uid => exact ⟨_, _, _, _, .setUid uid, next_of_answered rfl⟩
      | joinUserNamespace path => exact ⟨_, _, _, _, .joinUserNamespace path, next_of_answered rfl⟩
      | createUserNamespace uid gid =>
          exact ⟨_, _, _, _, .createUserNamespace uid gid, next_of_answered rfl⟩
      | unshare set => exact ⟨_, _, _, _, .unshare set, next_of_answered rfl⟩
      | isolateFilesystem root => exact ⟨_, _, _, _, .isolateFilesystem root, next_of_answered rfl⟩
      | disableCoreDumps => exact ⟨_, _, _, _, .disableCoreDumps, next_of_answered rfl⟩
      | installFilter profile =>
          exact ⟨_, _, _, _, .installFilter (.ofProfile profile), next_of_answered rfl⟩

end Request

/-! ## Taking a failure back -/

namespace SimulatedKernel

/-- The kernel after requests, first to last. -/
def serve (kernel : SimulatedKernel) (requests : List Request) : SimulatedKernel :=
  requests.foldl (fun kernel request => request.next kernel) kernel

/-- The kernels differ at most in their journals. -/
structure Alike (kernel other : SimulatedKernel) : Prop where
  process : kernel.process = other.process
  failure : kernel.failure = other.failure

/-- The kernels differ at most in their journals and in a failure of an operation that is asked for
in the first. -/
structure Hindered (operation : Operation) (kernel spared : SimulatedKernel) : Prop where
  process : kernel.process = spared.process
  asked : ∃ errno, kernel.failure operation = some errno
  cleared : (kernel.clearFailure operation).failure = spared.failure

section Requests

variable {operation : Operation} {kernel other spared : SimulatedKernel}

/-- Taking back a failure leaves those of other operations. -/
theorem clearFailure_other {query : Operation} (different : query ≠ operation) :
    (kernel.clearFailure operation).failure query = kernel.failure query := by
  unfold clearFailure
  exact if_neg different

/-- **Step.** Kernels that are alike stay so with a request. -/
theorem Alike.next (alike : Alike kernel other) (request : Request) :
    Alike (request.next kernel) (request.next other) := by
  cases calls : request.call? with
  | none =>
      rw [Request.next_question calls, Request.next_question calls]
      exact alike
  | some call =>
      obtain ⟨ε, α, action, told, journaled, leads⟩ := Request.next_journaled calls
      rw [leads, leads]
      refine ⟨(journaled.congr alike.process (congrFun alike.failure _)).2, ?_⟩
      rw [journaled.records.2, journaled.records.2]
      exact alike.failure

/-- **Run.** Kernels that are alike stay so with any requests. -/
theorem Alike.serve (alike : Alike kernel other) (requests : List Request) :
    Alike (kernel.serve requests) (other.serve requests) := by
  induction requests generalizing kernel other with
  | nil => exact alike
  | cons request requests ih => exact ih (alike.next request)

/-- A failure that is asked for an operation hinders that operation alone. -/
theorem Hindered.of_fail (unasked : kernel.failure operation = none) (errno : Errno) :
    Hindered operation (kernel.fail operation errno) kernel := by
  refine ⟨rfl, ⟨errno, if_pos rfl⟩, funext fun query => ?_⟩
  by_cases same : query = operation
  · subst same
    exact (if_pos rfl).trans unasked.symm
  · exact (if_neg same).trans (if_neg same)

/-- A kernel whose failure is taken back is alike to one that never met it. -/
theorem Hindered.alike (hindered : Hindered operation kernel spared) :
    Alike (kernel.clearFailure operation) spared :=
  ⟨hindered.process, hindered.cleared⟩

/-- A request for the hindered operation is in vain. -/
theorem Hindered.refused (hindered : Hindered operation kernel spared) {request : Request}
    (about : request.operation? = some operation) :
    Hindered operation (request.next kernel) spared := by
  obtain ⟨call, calls, rfl⟩ := Option.map_eq_some_iff.mp about
  obtain ⟨ε, α, action, told, journaled, leads⟩ := Request.next_journaled calls
  obtain ⟨errno, asked⟩ := hindered.asked
  have failed : action.ending { kernel } = .error (told errno) := journaled.fails asked
  rw [leads, journaled.spares failed]
  exact ⟨hindered.process, ⟨errno, asked⟩, hindered.cleared⟩

/-- Every other request does the same to both. -/
theorem Hindered.next (hindered : Hindered operation kernel spared) {request : Request}
    (other : request.operation? ≠ some operation) :
    Hindered operation (request.next kernel) (request.next spared) := by
  cases calls : request.call? with
  | none =>
      rw [Request.next_question calls, Request.next_question calls]
      exact hindered
  | some call =>
      have different : call.operation ≠ operation := fun same =>
        other (Option.map_eq_some_iff.mpr ⟨call, calls, same⟩)
      obtain ⟨ε, α, action, told, journaled, leads⟩ := Request.next_journaled calls
      have decides : kernel.failure call.operation = spared.failure call.operation := by
        rw [← hindered.cleared, clearFailure_other different]
      have kept : (action.reached { kernel }).kernel.failure = kernel.failure := journaled.records.2
      rw [leads, leads]
      refine ⟨(journaled.congr hindered.process decides).2, ?_, ?_⟩
      · rw [kept]
        exact hindered.asked
      · rw [journaled.records.2, ← hindered.cleared]
        unfold clearFailure
        dsimp only
        rw [kept]

/-- **Run.** Requests for the hindered operation might as well not have been made. -/
theorem Hindered.serve (hindered : Hindered operation kernel spared) (requests : List Request) :
    Hindered operation (kernel.serve requests)
      (spared.serve (requests.filter fun request => request.operation? ≠ some operation)) := by
  induction requests generalizing kernel spared with
  | nil => exact hindered
  | cons request requests ih =>
      by_cases about : request.operation? = some operation
      · have dropped : ¬ decide (request.operation? ≠ some operation) = true :=
          fun chosen => of_decide_eq_true chosen about
        rw [List.filter_cons, if_neg dropped]
        exact ih (hindered.refused about)
      · rw [List.filter_cons, if_pos (decide_eq_true about)]
        exact ih (hindered.next about)

end Requests

/-- **Atomicity.** Each journaled operation of a kernel adds its call to the journal, just once. If
it fails, that is all that it does. A failure that was asked for comes before everything else and is
told as it is. Once the failure is taken back, the kernel goes on as one that never met it and was
not asked for the operation in the meantime. -/
theorem Journaled.atomic {ε α : Type} {action : KernelAction SimulatedKernel ε α}
    {call : SimulatedCall} {told : Errno → ε} (journaled : Journaled action call told)
    (machine : Machine SimulatedKernel) :
    (action.reached machine).kernel.journal = machine.kernel.journal ++ [call] ∧
    (∀ e, action.ending machine = .error e →
      action.reached machine =
        { machine with
          kernel := { machine.kernel with journal := machine.kernel.journal ++ [call] } }) ∧
    (∀ errno, machine.kernel.failure call.operation = some errno →
      action.ending machine = .error (told errno)) ∧
    ∀ operation errno (earlier later : List Request), machine.kernel.failure operation = none →
      let cleared :=
        (((machine.kernel.fail operation errno).serve earlier).clearFailure operation).serve later
      let spared := (machine.kernel.serve
        (earlier.filter fun request => request.operation? ≠ some operation)).serve later
      action.ending { machine with kernel := cleared } =
          action.ending { machine with kernel := spared } ∧
        Alike (action.reached { machine with kernel := cleared }).kernel
          (action.reached { machine with kernel := spared }).kernel := by
  refine ⟨journaled.records.1, fun e failed => journaled.spares failed,
    fun errno asked => journaled.fails asked, fun operation errno earlier later unasked => ?_⟩
  intro cleared spared
  have alike : Alike cleared spared :=
    ((Hindered.of_fail unasked errno).serve earlier).alike.serve later
  have same : action.ending { machine with kernel := cleared } =
        action.ending { machine with kernel := spared } ∧
      (action.reached { machine with kernel := cleared }).kernel.process =
        (action.reached { machine with kernel := spared }).kernel.process :=
    journaled.congr alike.process (congrFun alike.failure _)
  refine ⟨same.1, same.2, ?_⟩
  rw [journaled.records.2, journaled.records.2]
  exact alike.failure

/-- The superuser leaves no namespace behind where a failure is asked for that, and does so once it
is taken back. -/
theorem Journaled.atomic_unshare :
    Journaled (Kernel.unshare ∅) (.unshare ∅) (.call (.simulated .unshare)) ∧
      root.failure .unshare = none ∧
      let action : KernelAction SimulatedKernel Failure Unit := Kernel.unshare ∅
      let failing := root.fail .unshare .enosys
      action.ending { kernel := failing } = .error (.call (.simulated .unshare) .enosys) ∧
      (action.reached { kernel := failing }).kernel.journal = [.unshare ∅] ∧
      action.ending { kernel := (failing.serve [.plain (.unshare ∅)]).clearFailure .unshare } =
        .ok () := by
  have journaled : Journaled (Kernel.unshare ∅) (.unshare ∅) (.call (.simulated .unshare)) :=
    .unshare ∅
  refine ⟨journaled, rfl, ?_⟩
  intro action failing
  obtain ⟨grown, -, told, -⟩ := Journaled.atomic journaled { kernel := failing }
  obtain ⟨-, -, -, restored⟩ := Journaled.atomic journaled { kernel := root }
  obtain ⟨ended, -⟩ := restored .unshare .enosys [.plain (.unshare ∅)] [] rfl
  exact ⟨told .enosys rfl, grown, ended⟩

end SimulatedKernel

end SelfIsolation
