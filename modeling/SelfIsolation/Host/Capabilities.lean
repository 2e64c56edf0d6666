import SelfIsolation.Host.System

/-! # Capabilities of a host's process

Reading and replacing the capability sets in the kernel's exchange format, and the
bounding set, which can be read and dropped bit by bit only.
-/

namespace SelfIsolation.Host

/-- A call whose failure is an error number with a name. -/
def named {α : Type} (call : EStateM Int Host α) : EStateM Errno Host α :=
  EStateM.adaptExcept Errno.ofCode call

/-- Reads the capability sets. -/
def readCaps : EStateM Errno Host ProcessCaps :=
  named (ask .readCaps fun system => .ok system.caps.toSets)

/-- Replaces the capability sets. -/
def writeCaps (sets : ProcessCaps) : EStateM Errno Host Unit :=
  named (act (.writeCaps sets) fun system => { system with caps := .ofSets sets })

/-- Drops a bit from the bounding set. -/
def dropBounding (bit : Nat) : EStateM Errno Host Unit :=
  named (make (.dropBounding bit) fun system =>
    (system.dropBounding bit).map fun system => ((), system))

/-- Whether a bit is in the bounding set. -/
def readBounding (bit : Nat) : EStateM Errno Host Bool :=
  named (ask (.readBounding bit) fun system => system.readBounding bit)

/-- Reads a bit of the bounding set and adds it to those already found. A bit that cannot be read
counts as absent. -/
def collectBounding (found : CapSet) (bit : Nat) : StateM Host CapSet := do
  match ← ending (readBounding bit) with
  | .ok present => return if present then found.insertBit bit else found
  | .error _ => return found

/-- Reads the bounding set. -/
def boundingSet : StateM Host CapSet := (List.range CapSet.width).foldlM collectBounding ∅

end SelfIsolation.Host
