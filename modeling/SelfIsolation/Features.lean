/-! # Features of a system

What a system offers for isolation, with the summary shown to a user.
-/

namespace SelfIsolation

/-- What a system offers for isolation. -/
structure SystemFeatures where
  isRoot : Bool
  hasUserNamespaces : Bool
  hasFilters : Bool
  hasCloseRange : Bool
  /-- The process is in the outermost user namespace. -/
  inInitialUserNamespace : Bool
  deriving DecidableEq

namespace SystemFeatures

/-- The features with their names. -/
def entries (features : SystemFeatures) : List (Bool × String) := [
  (features.isRoot, "Root privileges"),
  (features.hasUserNamespaces, "User namespaces"),
  (features.hasFilters, "Seccomp BPF"),
  (features.hasCloseRange, "close_range()"),
  (features.inInitialUserNamespace, "Initial user namespace")]

/-- One line of the summary. -/
def line (available : Bool) (name : String) : String :=
  let mark := if available then "[ok]" else "[--]"
  s!"{mark} {name}"

/-- One line for each feature. -/
def summary (features : SystemFeatures) : String :=
  "\n".intercalate (features.entries.map fun (available, name) => line available name)

end SystemFeatures

end SelfIsolation
