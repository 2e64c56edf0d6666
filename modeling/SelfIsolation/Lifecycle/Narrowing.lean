import SelfIsolation.Lifecycle.Session
import SelfIsolation.Policy

/-! # Narrowing capabilities

Two steps give up capabilities: one restricts the effective and the permitted set,
the other empties the bounding set, as far as the process may, and clears the
inheritable set. Both write down what is left.
-/

namespace SelfIsolation.Isolating

variable {κ : Type} [Kernel κ]

/-- Leaves only `keep` in the effective and the permitted set. -/
def restrictCaps (keep : CapSet) : Isolating κ Unit := do
  let current ← attempt .readCaps Kernel.readCaps
  let narrowed := current.restrict keep
  attempt .narrowCaps (Kernel.writeCaps narrowed)
  note .debug s!"Kept capabilities: {narrowed.effective}"
  recordingChecked fun privileges => privileges.withCaps narrowed

/-- Drops one bit from the bounding set and counts the drops that were refused. -/
def dropBoundingBit (tolerance : Tolerance) (refused bit : Nat) : Isolating κ Nat := do
  match ← tolerate tolerance (.dropBounding bit) (Kernel.dropBounding bit) with
  | .tolerated errno => return if errno = .eperm then refused + 1 else refused
  | .applied => return refused

/-- Drops every bit from the bounding set and says how many drops were refused. -/
def dropBoundingSet (tolerance : Tolerance) : Isolating κ Nat :=
  (List.range CapSet.width).foldlM (dropBoundingBit tolerance) 0

/-- Writes down the bounding set as it is. -/
def recordBounding : Isolating κ CapSet := do
  let bounding ← observe Kernel.boundingSet
  recordingChecked fun privileges => privileges.withBounding bounding
  return bounding

/-- Clears the inheritable set. -/
def clearInheritable : Isolating κ Unit := do
  let current ← attempt .readCaps Kernel.readCaps
  let cleared := current.clearInheritable
  attempt .clearInheritable (Kernel.writeCaps cleared)
  recordingChecked fun privileges => privileges.withCaps cleared

/-- Empties the bounding set, as far as the mode lets refusals pass, and the inheritable set. -/
def clampCaps (operating : OperatingMode) : Isolating κ Unit := do
  let _ ← recordBounding
  let refused ← dropBoundingSet (Policy.boundingDrop operating)
  if 0 < refused then
    note .warn s!"No CAP_SETPCAP, bounding set left as is for {refused} capabilities"
  let bounding ← observe Kernel.boundingSet
  note .debug s!"Bounding set now: {bounding}"
  recordingChecked fun privileges => privileges.withBounding bounding
  clearInheritable

end SelfIsolation.Isolating
