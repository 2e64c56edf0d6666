import SelfIsolation.Proofs.Lifecycle.Plan

/-! # Replaying calls on a process

Where no failures are asked for, what a simulated kernel answers is decided by the
rules of its process alone (`SelfIsolation.SimulatedProcess.answer`). A script of
calls is then replayed without a kernel (`SelfIsolation.SimulatedProcess.replay`),
and calls that were passed one after the other lead to the process that the replay
ends with (`SelfIsolation.SimulatedKernel.Makes.replayed`).
-/

namespace SelfIsolation

namespace SimulatedProcess

/-- The answer to a call by the rule for it. -/
def answer (process : SimulatedProcess) : SimulatedCall → Except (Option Errno) SimulatedProcess
  | .readCaps => .ok process
  | .writeCaps sets => (process.writeCaps sets).mapError some
  | .dropBounding bit => (process.dropBounding bit).mapError some
  | .closeDescriptors keep => .ok (process.closeDescriptors keep)
  | .clearGroups => process.clearGroups.mapError some
  | .setGid gid => (process.setGid gid).mapError some
  | .setUid uid => (process.setUid uid).mapError some
  | .joinUserNamespace path => .ok (process.joinUserNamespace path)
  | .createUserNamespace _ _ => .ok process.createUserNamespace
  | .unshare set => (process.unshare set).mapError Failure.errno?
  | .isolateFilesystem _ => process.isolateFilesystem.mapError Failure.errno?
  | .disableCoreDumps => .ok process.disableCoreDumps
  | .installFilter profile =>
    (process.installFilter (.ofProfile profile)).mapError Failure.errno?

/-- The process after a script, unless one of its calls is refused with an error number that is not
passed over. -/
def replay (tolerated : SimulatedCall → List Errno) (process : SimulatedProcess) :
    List SimulatedCall → Except (Option Errno) SimulatedProcess
  | [] => .ok process
  | call :: calls =>
    match process.answer call with
    | .ok next => next.replay tolerated calls
    | .error (some errno) =>
      if errno ∈ tolerated call then process.replay tolerated calls else .error (some errno)
    | .error none => .error none

section Replay

variable {tolerated : SimulatedCall → List Errno} {process next : SimulatedProcess}
  {call : SimulatedCall} {calls : List SimulatedCall} {errno : Errno}

/-- A call that is accepted changes the process, and replay goes on from there. -/
theorem replay_accepted (answered : process.answer call = .ok next) :
    process.replay tolerated (call :: calls) = next.replay tolerated calls := by
  rw [replay, answered]

/-- A call that is refused and passed over leaves the process, and replay goes on. -/
theorem replay_passed (answered : process.answer call = .error (some errno))
    (listed : errno ∈ tolerated call) :
    process.replay tolerated (call :: calls) = process.replay tolerated calls := by
  rw [replay, answered]
  exact if_pos listed

/-- A call that is refused and not passed over ends the replay. -/
theorem replay_refused (answered : process.answer call = .error (some errno))
    (fatal : errno ∉ tolerated call) :
    process.replay tolerated (call :: calls) = .error (some errno) := by
  rw [replay, answered]
  exact if_neg fatal

/-- Calls are replayed one part after the other. -/
theorem replay_append (front back : List SimulatedCall) :
    process.replay tolerated (front ++ back) =
      (process.replay tolerated front).bind fun next => next.replay tolerated back := by
  induction front generalizing process with
  | nil => rfl
  | cons call front ih =>
      rw [List.cons_append, replay, replay]
      cases process.answer call with
      | ok next => exact ih
      | error refusal =>
          cases refusal with
          | none => rfl
          | some errno =>
              dsimp only
              split
              case isTrue => exact ih
              case isFalse => rfl

end Replay

end SimulatedProcess

namespace SimulatedKernel

/-- No failures are asked for. -/
def Unhindered (kernel : SimulatedKernel) : Prop := ∀ operation, kernel.failure operation = none

/-- Where no failure is asked for, an operation is answered by its rule. -/
theorem answered_make {ε : Type} {errno? : ε → Option Errno} {call : SimulatedCall}
    {injected : Errno → ε} {rule : SimulatedProcess → Except ε SimulatedProcess}
    {kernel : SimulatedKernel} (unhindered : kernel.Unhindered) :
    answered errno? (.silent (make call injected rule)) kernel =
      match (rule kernel.process).mapError errno? with
      | .ok process => .ok () { kernel.enter call with process }
      | .error refusal => .error refusal (kernel.enter call) := by
  have unasked := unhindered call.operation
  cases ruled : rule kernel.process with
  | ok process =>
      have made : make call injected rule kernel = .ok () { kernel.enter call with process } := by
        simp only [make, unasked, ruled]
      exact answered_ok made
  | error e =>
      have made : make call injected rule kernel = .error e (kernel.enter call) := by
        simp only [make, unasked, ruled]
      exact answered_error made

/-- Where no failure is asked for, a call is answered as the process answers it. -/
theorem submit_unhindered {kernel : SimulatedKernel} (unhindered : kernel.Unhindered)
    (call : SimulatedCall) :
    submit call kernel = match kernel.process.answer call with
      | .ok process => .ok () { kernel.enter call with process }
      | .error refusal => .error refusal (kernel.enter call) := by
  cases call with
  | readCaps =>
      have read : readCaps kernel = .ok kernel.process.caps (kernel.enter .readCaps) := by
        have unasked : kernel.failure SimulatedCall.readCaps.operation = none := unhindered _
        simp only [readCaps, primitive, make, bind, EStateM.bind, unasked]
        rfl
      exact answered_ok read
  | writeCaps sets => exact answered_make unhindered
  | dropBounding bit => exact answered_make unhindered
  | closeDescriptors keep => exact answered_make unhindered
  | clearGroups => exact answered_make unhindered
  | setGid gid => exact answered_make unhindered
  | setUid uid => exact answered_make unhindered
  | joinUserNamespace path => exact answered_make unhindered
  | createUserNamespace uid gid => exact answered_make unhindered
  | unshare set => exact answered_make unhindered
  | isolateFilesystem root => exact answered_make unhindered
  | disableCoreDumps => exact answered_make unhindered
  | installFilter profile => exact answered_make unhindered

section Unhindered

variable {kernel next : SimulatedKernel} {call : SimulatedCall}

/-- A call that is accepted changes the process as that answers. -/
theorem submit_ok (unhindered : kernel.Unhindered) (answer : submit call kernel = .ok () next) :
    kernel.process.answer call = .ok next.process ∧ next.failure = kernel.failure := by
  rw [submit_unhindered unhindered] at answer
  cases answered : kernel.process.answer call with
  | ok process =>
      rw [answered] at answer
      cases answer
      exact ⟨rfl, rfl⟩
  | error refusal =>
      rw [answered] at answer
      cases answer

/-- A call that is refused is journaled and changes nothing else. -/
theorem submit_error {refusal : Option Errno} (unhindered : kernel.Unhindered)
    (answer : submit call kernel = .error refusal next) :
    kernel.process.answer call = .error refusal ∧ next = kernel.enter call := by
  rw [submit_unhindered unhindered] at answer
  cases answered : kernel.process.answer call with
  | ok process =>
      rw [answered] at answer
      cases answer
  | error refusal =>
      rw [answered] at answer
      cases answer
      exact ⟨rfl, rfl⟩

/-- Calls do not change the failures that are asked for. -/
theorem Makes.failure {first last : SimulatedKernel} {calls : List (SimulatedCall × CallAnswer)}
    (unhindered : first.Unhindered) (made : first.Makes calls last) :
    last.failure = first.failure := by
  induction made with
  | nothing => rfl
  | accepted made answer ih =>
      rename_i calls kernel call next
      have here : kernel.Unhindered := fun operation => by rw [ih, unhindered operation]
      exact (submit_ok here answer).2.trans ih
  | refused made answer ih =>
      rename_i calls kernel call refusal next
      have here : kernel.Unhindered := fun operation => by rw [ih, unhindered operation]
      rw [(submit_error here answer).2]
      exact ih

/-- Where no failure is asked for, none is after any calls. -/
theorem Makes.unhindered {first last : SimulatedKernel}
    {calls : List (SimulatedCall × CallAnswer)} (unhindered : first.Unhindered)
    (made : first.Makes calls last) : last.Unhindered := by
  intro operation
  rw [made.failure unhindered]
  exact unhindered operation

/-- The replay of calls that were passed ends with the process that they led to. -/
theorem Makes.replayed {first last : SimulatedKernel} {calls : List (SimulatedCall × CallAnswer)}
    {tolerated : SimulatedCall → List Errno} (unhindered : first.Unhindered)
    (made : first.Makes calls last) (passed : ∀ entry ∈ calls, Passes tolerated entry) :
    first.process.replay tolerated (calls.map Prod.fst) = .ok last.process := by
  induction made with
  | nothing => rfl
  | accepted made answer ih =>
      have accepted := (submit_ok (made.unhindered unhindered) answer).1
      have front := ih fun entry member => passed entry (List.mem_append_left _ member)
      rw [List.map_append, SimulatedProcess.replay_append, front]
      exact SimulatedProcess.replay_accepted accepted
  | refused made answer ih =>
      rename_i calls kernel call refusal next
      obtain ⟨refused, rfl⟩ := submit_error (made.unhindered unhindered) answer
      have front := ih fun entry member => passed entry (List.mem_append_left _ member)
      rw [List.map_append, SimulatedProcess.replay_append, front]
      rcases passed _ (List.mem_append_right _ List.mem_cons_self) with impossible |
        ⟨errno, listed, same⟩
      · cases impossible
      · cases same
        exact SimulatedProcess.replay_passed refused listed

/-- A last call that was refused was submitted to the kernel that the others led to. -/
theorem Makes.last_refused {first last : SimulatedKernel}
    {front : List (SimulatedCall × CallAnswer)} {refusal : Option Errno}
    (made : first.Makes (front ++ [(call, .error refusal)]) last) :
    ∃ kernel, first.Makes front kernel ∧ submit call kernel = .error refusal last := by
  generalize whole : front ++ [(call, .error refusal)] = calls at made
  cases made with
  | nothing => cases List.append_ne_nil_of_right_ne_nil _ (List.cons_ne_nil _ _) whole
  | accepted made answer => cases (List.append_inj' whole rfl).2
  | refused made answer =>
      obtain ⟨rfl, same⟩ := List.append_inj' whole rfl
      cases same
      exact ⟨_, made, answer⟩

end Unhindered

end SimulatedKernel

end SelfIsolation
