import SelfIsolation.Failure
import SelfIsolation.Filter.CallTable
import SelfIsolation.Filter.Program

/-! # System-call filters

A filter allows a set of system calls by name. Each mode has a profile: calls that
every mode needs, and a few more. A filter has to leave a way to exit, and every
name has to be known or covered by one that is.
-/

namespace SelfIsolation

/-- A choice of system calls. -/
inductive FilterProfile where
  /-- Sockets and timers. -/
  | passt
  /-- A tap device as well. -/
  | pasta
  /-- Shared memory as well. -/
  | vhostUser
  deriving DecidableEq

namespace FilterProfile

/-- Every profile. -/
def all : List FilterProfile := [.passt, .pasta, .vhostUser]

/-- The profile of a mode. -/
def ofMode : Mode → FilterProfile
  | .passt => .passt
  | .pasta => .pasta
  | .vhostUser => .vhostUser

/-- The name of a profile. -/
def name : FilterProfile → String
  | .passt => "Passt"
  | .pasta => "Pasta"
  | .vhostUser => "VhostUser"

/-- The profile of a name. -/
def ofName? (name : String) : Option FilterProfile := all.find? fun profile => profile.name = name

/-- What a profile allows, in words. -/
def description : FilterProfile → String
  | .passt => "Sockets, epoll and timers only"
  | .pasta => "passt set + lseek on the tap device"
  | .vhostUser => "passt set + ioctl, mmap and getsockname"

/-- The calls that every profile allows. -/
def shared : List String := [
  "read", "write", "writev", "readv", "close", "fcntl", "recvfrom", "sendto", "recvmsg", "sendmsg",
  "recvmmsg", "sendmmsg", "socket", "getsockopt", "setsockopt", "bind", "connect", "shutdown",
  "accept", "accept4", "listen", "epoll_ctl", "epoll_wait", "epoll_pwait", "clock_gettime",
  "timerfd_create", "timerfd_settime", "timerfd_gettime", "exit_group", "exit", "rt_sigreturn",
  "restart_syscall"]

/-- The calls that a profile adds. -/
def additional : FilterProfile → List String
  | .passt => []
  | .pasta => ["lseek"]
  | .vhostUser => ["getsockname", "ioctl", "mmap", "munmap"]

instance : ToString FilterProfile := ⟨name⟩

end FilterProfile

/-- A set of system calls, by name, that a process may go on making. -/
structure Filter where
  /-- The names, in any order; a name counts once. -/
  allowed : List String
  profile : FilterProfile
  deriving DecidableEq

namespace Filter

/-- The filter of a profile. -/
def ofProfile (profile : FilterProfile) : Filter :=
  ⟨FilterProfile.shared ++ profile.additional, profile⟩

/-- The filter of an operating mode. -/
def ofMode (operating : OperatingMode) : Filter := ofProfile (.ofMode operating.mode)

/-- Holds of the names that a filter allows. -/
def allows (filter : Filter) (name : String) : Bool := filter.allowed.contains name

/-- The allowed names, each once, in ascending order. -/
def names (filter : Filter) : List String :=
  filter.allowed.eraseDups.mergeSort fun left right => decide (left ≤ right)

/-- The number of allowed names. -/
def count (filter : Filter) : Nat := filter.names.length

/-- A filter leaves something allowed, at least a way to exit. -/
def validate (filter : Filter) : Except FilterReason Unit :=
  if filter.allowed.isEmpty then .error .allowsNothing
  else if !filter.allows "exit_group" && !filter.allows "exit" then .error .allowsNoExit
  else .ok ()

/-- The numbers of the named calls in ascending order, leaving out what another call covers. -/
def numbers : List String → Except FilterReason (List Nat)
  | [] => .ok []
  | name :: names =>
    match CallTable.number? name with
    | some number => (numbers names).map (FilterProgram.insertNumber number)
    | none =>
      if ((CallTable.equivalent? name).bind CallTable.number?).isSome then numbers names
      else .error (.unknownCall name)

/-- The program of a filter. -/
def compile (filter : Filter) : Except FilterReason FilterProgram := do
  filter.validate
  return ⟨← numbers filter.names⟩

end Filter

end SelfIsolation
