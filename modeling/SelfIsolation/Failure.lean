import SelfIsolation.Capability.Basic
import SelfIsolation.Errno
import SelfIsolation.Mode
import SelfIsolation.Namespace
import SelfIsolation.Operation

/-! # Failures

Why an isolation step failed. A failure names its cause; the text that a user sees
is written in one place, `Failure.message`, and the error number behind it is
`Failure.errno?`.
-/

namespace SelfIsolation

/-- Why a file could not be read or written. -/
inductive FileFault where
  | refused (code : Int)
  | notText
  | invalidPath
  | other (text : String)
  deriving DecidableEq

namespace FileFault

/-- What is said of a fault. -/
def message : FileFault → String
  | .refused code => s!"{Errno.libraryText code} (os error {code})"
  | .notText => "stream did not contain valid UTF-8"
  | .invalidPath => "file name contained an unexpected NUL byte"
  | .other text => text

/-- The error number behind a fault. -/
def errno? : FileFault → Option Errno
  | .refused code => some (Errno.ofCode code)
  | _ => none

instance : ToString FileFault := ⟨message⟩

end FileFault

/-- What was being done when a system call failed. -/
inductive Attempt where
  | readCaps
  | narrowCaps
  | clearInheritable
  | dropBounding (bit : Nat)
  | dropGroups
  | setGid (gid : UInt32)
  | setUid (uid : UInt32)
  | enterUserNamespace (path : String)
  | createUserNamespace
  | unshare
  | unbindRoot
  | mountScratch (path : String)
  | enterScratch (path : String)
  | pivotRoot
  | detachOldRoot
  | closeRange (first : UInt32)
  | closeDescriptor (descriptor : Int32)
  | clearDumpable
  | setCoreLimit
  | readDumpable
  | readCoreLimit
  | forbidPrivileges
  | fork
  | newSession
  | simulated (operation : Operation)
  | simulatedWithout (operation : Operation) (capability : Capability)
  | simulatedSharedRoot
  | other (text : String)
  deriving DecidableEq

namespace Attempt

/-- What was being done, in words. -/
def text : Attempt → String
  | .readCaps => "Couldn't get current capabilities"
  | .narrowCaps => "Couldn't drop capabilities"
  | .clearInheritable => "Couldn't drop inheritable capabilities"
  | .dropBounding bit => s!"Couldn't drop cap {bit} from bounding set"
  | .dropGroups => "Can't drop supplementary groups"
  | .setGid gid => s!"Can't set GID to {gid}"
  | .setUid uid => s!"Can't set UID to {uid}"
  | .enterUserNamespace path => s!"Couldn't enter user namespace {path}"
  | .createUserNamespace => "Couldn't create user namespace"
  | .unshare => "Couldn't unshare namespaces"
  | .unbindRoot => "Failed to make / unbindable"
  | .mountScratch path => s!"Failed to mount empty tmpfs on {path}"
  | .enterScratch path => s!"Failed to chdir to {path}"
  | .pivotRoot => "pivot_root() failed"
  | .detachOldRoot => "Failed to detach old root"
  | .closeRange first => s!"Failed to close files from {first}"
  | .closeDescriptor descriptor => s!"Failed to close fd {descriptor}"
  | .clearDumpable => "Failed to clear dumpable flag"
  | .setCoreLimit => "setrlimit(RLIMIT_CORE) failed"
  | .readDumpable => "Failed to read dumpable flag"
  | .readCoreLimit => "getrlimit(RLIMIT_CORE) failed"
  | .forbidPrivileges => "Failed to set PR_SET_NO_NEW_PRIVS"
  | .fork => "Failed to fork"
  | .newSession => "Couldn't start a new session"
  | .simulated operation => s!"simulated {operation}"
  | .simulatedWithout operation capability => s!"simulated {operation} without {capability}"
  | .simulatedSharedRoot => "simulated pivot_root outside a private mount namespace"
  | .other text => text

instance : ToString Attempt := ⟨text⟩

end Attempt

/-- Why a namespace could not be reached. -/
inductive NamespaceReason where
  | cannotOpen (path : String) (fault : FileFault)
  | noInformation (process : String) (kind : NamespaceKind) (fault : FileFault)
  | other (text : String)
  deriving DecidableEq

/-- The calls by which a filter takes effect. -/
inductive FilterCall where
  | prctl
  | seccomp
  deriving DecidableEq

/-- Why a system-call filter cannot be used. -/
inductive FilterReason where
  | allowsNothing
  | allowsNoExit
  /-- A name that no system call has. -/
  | unknownCall (name : String)
  | notApplied (call : FilterCall) (code : Int)
  | other (text : String)
  deriving DecidableEq

/-- Why a configuration or an argument cannot be used. -/
inductive ConfigReason where
  | malformed
  | unreadable (path : String) (fault : FileFault)
  | netnsOnly (mode : Mode)
  | negativeDescriptor (descriptor : Int32)
  | relativeScratch (path : String)
  | missingScratch (path : String)
  | missingDescriptor (argument : String)
  | invalidDescriptor (text : String)
  | other (text : String)
  deriving DecidableEq

/-- Why an isolation step failed. -/
inductive Failure where
  | call (attempt : Attempt) (errno : Errno)
  | file (fault : FileFault)
  | namespaces (reason : NamespaceReason)
  | filter (reason : FilterReason)
  | configuration (reason : ConfigReason)
  | unavailable (feature : String)
  deriving DecidableEq

namespace NamespaceReason

/-- What is said of a namespace that could not be reached. -/
def message : NamespaceReason → String
  | .cannotOpen path fault => s!"Couldn't open user namespace {path}: {fault}"
  | .noInformation process kind fault =>
    s!"Failed to get namespace info for pid={process} ns={kind.procName}: {fault}"
  | .other text => text

end NamespaceReason

namespace FilterReason

/-- What is said of a filter that cannot be used. -/
def message : FilterReason → String
  | .allowsNothing => "Filter allows no syscalls"
  | .allowsNoExit => "Filter must allow exit or exit_group"
  | .unknownCall name =>
    s!"Unknown syscall to allow: '{name}'. This syscall is not supported on this architecture."
  | .notApplied call code =>
    let name := match call with
      | .prctl => "prctl"
      | .seccomp => "seccomp"
    s!"Failed to apply seccomp filter: Error calling `{name}`: {FileFault.refused code}"
  | .other text => text

end FilterReason

namespace ConfigReason

/-- What is said of a configuration that cannot be used. -/
def message : ConfigReason → String
  | .malformed => "Couldn't parse JSON:"
  | .unreadable path fault => s!"Couldn't read {path}: {fault}"
  | .netnsOnly mode => s!"netns_only only applies to pasta, not {mode}"
  | .negativeDescriptor descriptor => s!"Invalid fd: {descriptor}"
  | .relativeScratch path => s!"Scratch directory must be absolute: {path}"
  | .missingScratch path => s!"Scratch directory {path} does not exist"
  | .missingDescriptor argument => s!"{argument} requires a descriptor number"
  | .invalidDescriptor text => s!"Invalid --fd: {text}"
  | .other text => text

end ConfigReason

namespace Failure

/-- What is said of a failure. -/
def message : Failure → String
  | .call attempt errno => s!"{attempt}: {errno}"
  | .file fault => s!"IO error: {fault}"
  | .namespaces reason => s!"Namespace error: {reason.message}"
  | .filter reason => s!"Seccomp error: {reason.message}"
  | .configuration reason => s!"Invalid configuration: {reason.message}"
  | .unavailable feature => s!"Feature not available: {feature}"

/-- The error number behind a failure. -/
def errno? : Failure → Option Errno
  | .call _ errno => some errno
  | .file fault => fault.errno?
  | _ => none

instance : ToString Failure := ⟨message⟩

end Failure

end SelfIsolation
