import SelfIsolation.Proofs.Lifecycle.Triple

/-! # How operations end

What an operation of a kernel comes to: a value or a failure, and the machine that it
leaves in either case.
-/

namespace SelfIsolation.KernelAction

variable {κ ε α : Type}

/-- How an operation ends. -/
def ending (action : KernelAction κ ε α) (machine : Machine κ) : Except ε α :=
  match action machine with
  | .ok value _ => .ok value
  | .error e _ => .error e

/-- The machine that an operation leaves, however it ends. -/
def reached (action : KernelAction κ ε α) (machine : Machine κ) : Machine κ :=
  match action machine with
  | .ok _ next => next
  | .error _ next => next

variable {action : KernelAction κ ε α} {machine next : Machine κ}

theorem ends_of_ok {value : α} (taken : action machine = .ok value next) :
    action.ending machine = .ok value ∧ action.reached machine = next := by
  unfold ending reached
  rw [taken]
  exact ⟨rfl, rfl⟩

theorem ends_of_error {e : ε} (taken : action machine = .error e next) :
    action.ending machine = .error e ∧ action.reached machine = next := by
  unfold ending reached
  rw [taken]
  exact ⟨rfl, rfl⟩

section Silent

variable {operation : EStateM ε κ α} {kernel : κ}

theorem silent_ends_of_ok {value : α} (taken : operation machine.kernel = .ok value kernel) :
    KernelAction.ending (.silent operation) machine = .ok value ∧
      KernelAction.reached (.silent operation) machine = { machine with kernel } := by
  unfold ending reached silent
  rw [taken]
  exact ⟨rfl, rfl⟩

theorem silent_ends_of_error {e : ε} (taken : operation machine.kernel = .error e kernel) :
    KernelAction.ending (.silent operation) machine = .error e ∧
      KernelAction.reached (.silent operation) machine = { machine with kernel } := by
  unfold ending reached silent
  rw [taken]
  exact ⟨rfl, rfl⟩

end Silent

section Sequence

variable {β : Type} (second : α → KernelAction κ ε β)

/-- After a first part that ends well an action ends as the second part does. -/
theorem bind_ends_of_ok {value : α} (taken : action machine = .ok value next) :
    KernelAction.ending (action >>= second) machine = (second value).ending next ∧
      KernelAction.reached (action >>= second) machine = (second value).reached next := by
  unfold ending reached
  rw [bind_of_ok taken]
  exact ⟨rfl, rfl⟩

/-- After a first part that fails an action fails alike. -/
theorem bind_ends_of_error {e : ε} (taken : action machine = .error e next) :
    KernelAction.ending (action >>= second) machine = .error e ∧
      KernelAction.reached (action >>= second) machine = next :=
  ends_of_error (bind_of_error taken)

end Sequence

end SelfIsolation.KernelAction
