import SelfIsolation.Features
import SelfIsolation.Host.Namespaces

/-! # Features of a host

What a host offers is found out by asking it: files of the process directory, and
calls that do nothing where they are supported.
-/

namespace SelfIsolation.Host

/-- Whether user namespaces are switched off for users. -/
def userNamespaceSwitch : String := "/proc/sys/kernel/unprivileged_userns_clone"

/-- How many user namespaces there may be. -/
def userNamespaceLimit : String := "/proc/sys/user/max_user_namespaces"

/-- Holds of the content of a switch that is off. -/
def isOff (content : String) : Bool := Blank.trim content.toList = ['0']

/-- The limit that a content gives, if it is a number of 64 bits. -/
def limit? (content : String) : Option Nat :=
  Numeral.readUnsigned? UInt64.size (Blank.trim content.toList)

/-- Whether user namespaces can be created: they are neither switched off nor limited to none. -/
def detectUserNamespaces : StateM Host Bool := do
  if (← readText? userNamespaceSwitch).any isOff then return false
  let limit := (← readText? userNamespaceLimit).bind limit?
  return limit.all fun limit => decide (0 < limit)

/-- Whether system calls can be filtered. -/
def detectFilters : StateM Host Bool := do
  match ← ending (act .readFilterMode) with
  | .ok () => return true
  | .error _ => return false

/-- Whether descriptors can be closed by ranges. The range asked for is empty, so nothing is
closed, and any refusal but one means that the call is known. -/
def detectCloseRange : StateM Host Bool := do
  match ← ending (act (.closeRange 1 0)) with
  | .ok () => return true
  | .error code => return code ≠ (Errno.enosys.number : Int)

/-- Finds out what a host offers. -/
def detectFeatures : StateM Host SystemFeatures := do
  let isRoot := (← get).system.effectiveUid = 0
  let hasUserNamespaces ← detectUserNamespaces
  let hasFilters ← detectFilters
  let hasCloseRange ← detectCloseRange
  let inInitialUserNamespace ← inInitialUserNamespace
  return { isRoot, hasUserNamespaces, hasFilters, hasCloseRange, inInitialUserNamespace }

end SelfIsolation.Host
