import SelfIsolation.Proofs.Simulation.Standing

/-! # Calls and their answers

Any call that can be journaled can also be submitted to a kernel
(`SelfIsolation.SimulatedKernel.submit`), which accepts it or refuses it with an
error number. Calls submitted one after the other lead from one kernel to another
(`SelfIsolation.SimulatedKernel.Makes`), and the journal grows by exactly these
calls (`SelfIsolation.SimulatedKernel.Makes.journal`).
-/

namespace SelfIsolation

/-- How a call ended; a refusal is known by its error number, where it has one. -/
abbrev CallAnswer := Except (Option Errno) Unit

namespace SimulatedKernel

/-- The answer to an operation whose refusals have error numbers. -/
def answered {ε α : Type} (errno? : ε → Option Errno)
    (action : KernelAction SimulatedKernel ε α) : EStateM (Option Errno) SimulatedKernel Unit :=
  fun kernel =>
    match action { kernel } with
    | .ok _ machine => .ok () machine.kernel
    | .error e machine => .error (errno? e) machine.kernel

/-- Submits a call to the kernel. -/
def submit : SimulatedCall → EStateM (Option Errno) SimulatedKernel Unit
  | .readCaps => answered some Kernel.readCaps
  | .writeCaps sets => answered some (Kernel.writeCaps sets)
  | .dropBounding bit => answered some (Kernel.dropBounding bit)
  | .closeDescriptors keep => answered Failure.errno? (Kernel.closeDescriptors keep)
  | .clearGroups => answered some Kernel.clearGroups
  | .setGid gid => answered some (Kernel.setGid gid)
  | .setUid uid => answered some (Kernel.setUid uid)
  | .joinUserNamespace path => answered Failure.errno? (Kernel.joinUserNamespace path)
  | .createUserNamespace uid gid => answered Failure.errno? (Kernel.createUserNamespace uid gid)
  | .unshare set => answered Failure.errno? (Kernel.unshare set)
  | .isolateFilesystem root => answered Failure.errno? (Kernel.isolateFilesystem root)
  | .disableCoreDumps => answered Failure.errno? Kernel.disableCoreDumps
  | .installFilter profile => answered Failure.errno? (Kernel.installFilter (.ofProfile profile))

/-- Calls submitted one after the other, each with its answer. -/
inductive Makes (first : SimulatedKernel) :
    List (SimulatedCall × CallAnswer) → SimulatedKernel → Prop
  | nothing : Makes first [] first
  | accepted {calls kernel call next} (made : Makes first calls kernel)
      (answer : submit call kernel = .ok () next) : Makes first (calls ++ [(call, .ok ())]) next
  | refused {calls kernel call errno? next} (made : Makes first calls kernel)
      (answer : submit call kernel = .error errno? next) :
      Makes first (calls ++ [(call, .error errno?)]) next

section Answered

variable {ε α : Type} {errno? : ε → Option Errno} {action : EStateM ε SimulatedKernel α}
  {kernel next : SimulatedKernel}

theorem answered_ok {value : α} (taken : action kernel = .ok value next) :
    answered errno? (.silent action) kernel = .ok () next := by
  unfold answered KernelAction.silent
  rw [taken]

theorem answered_error {e : ε} (taken : action kernel = .error e next) :
    answered errno? (.silent action) kernel = .error (errno? e) next := by
  unfold answered KernelAction.silent
  rw [taken]

/-- An action journals one call, however it ends. -/
def Journals (call : SimulatedCall) (action : EStateM ε SimulatedKernel α) : Prop :=
  ∀ kernel, match action kernel with
    | .ok _ next => next.journal = kernel.journal ++ [call]
    | .error _ next => next.journal = kernel.journal ++ [call]

/-- Every call is journaled, whether it is accepted or not. -/
theorem make_journals (call : SimulatedCall) (injected : Errno → ε)
    (rule : SimulatedProcess → Except ε SimulatedProcess) :
    Journals call (make call injected rule) := by
  intro kernel
  cases made : make call injected rule kernel with
  | ok value next =>
      obtain ⟨_, process, _, rfl⟩ := make_ok made
      rfl
  | error e next =>
      obtain ⟨rfl, _⟩ := make_error made
      rfl

/-- Reading the capability sets is journaled. -/
theorem readCaps_journals : Journals .readCaps readCaps := by
  intro kernel
  cases read : readCaps kernel with
  | ok sets next =>
      obtain ⟨_, rfl⟩ := readCaps_ok read
      rfl
  | error errno next =>
      cases readCaps_error read
      rfl

/-- An operation that journals its call does so however it is answered. -/
theorem Journals.answered {call : SimulatedCall} (journals : Journals call action) :
    Journals call (answered errno? (.silent action)) := by
  intro kernel
  have entered := journals kernel
  cases taken : action kernel with
  | ok value next =>
      rw [taken] at entered
      rw [answered_ok taken]
      exact entered
  | error e next =>
      rw [taken] at entered
      rw [answered_error taken]
      exact entered

end Answered

/-- Every submitted call is journaled, accepted or not. -/
theorem submit_journals (call : SimulatedCall) : Journals call (submit call) := by
  cases call with
  | readCaps => exact readCaps_journals.answered
  | writeCaps sets => exact (make_journals _ _ _).answered
  | dropBounding bit => exact (make_journals _ _ _).answered
  | closeDescriptors keep => exact (make_journals _ _ _).answered
  | clearGroups => exact (make_journals _ _ _).answered
  | setGid gid => exact (make_journals _ _ _).answered
  | setUid uid => exact (make_journals _ _ _).answered
  | joinUserNamespace path => exact (make_journals _ _ _).answered
  | createUserNamespace uid gid => exact (make_journals _ _ _).answered
  | unshare set => exact (make_journals _ _ _).answered
  | isolateFilesystem root => exact (make_journals _ _ _).answered
  | disableCoreDumps => exact (make_journals _ _ _).answered
  | installFilter profile => exact (make_journals _ _ _).answered

/-- The journal grows by the calls made. -/
theorem Makes.journal {first last : SimulatedKernel} {calls : List (SimulatedCall × CallAnswer)}
    (made : first.Makes calls last) : last.journal = first.journal ++ calls.map Prod.fst := by
  induction made with
  | nothing => exact (List.append_nil _).symm
  | accepted made answer ih =>
      rename_i calls kernel call next
      have entered := submit_journals call kernel
      rw [answer] at entered
      rw [entered, ih, List.map_append, List.append_assoc]
      rfl
  | refused made answer ih =>
      rename_i calls kernel call errno? next
      have entered := submit_journals call kernel
      rw [answer] at entered
      rw [entered, ih, List.map_append, List.append_assoc]
      rfl

end SimulatedKernel

end SelfIsolation
