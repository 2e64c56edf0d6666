/-! # Numbers of system calls

The system calls that a filter can name, with their numbers on x86_64. A call that
an architecture lacks may be covered by another one.
-/

namespace SelfIsolation.CallTable

/-- The known system calls with their numbers. -/
def entries : List (String × Nat) := [
  ("read", 0), ("write", 1), ("readv", 19), ("writev", 20), ("lseek", 8), ("close", 3),
  ("fcntl", 72), ("ioctl", 16), ("socket", 41), ("bind", 49), ("connect", 42), ("listen", 50),
  ("accept", 43), ("accept4", 288), ("shutdown", 48), ("getsockopt", 55), ("setsockopt", 54),
  ("getsockname", 51), ("recvfrom", 45), ("sendto", 44), ("recvmsg", 47), ("sendmsg", 46),
  ("recvmmsg", 299), ("sendmmsg", 307), ("epoll_ctl", 233), ("epoll_wait", 232),
  ("epoll_pwait", 281), ("clock_gettime", 228), ("timerfd_create", 283),
  ("timerfd_settime", 286), ("timerfd_gettime", 287), ("mmap", 9), ("munmap", 11), ("exit", 60),
  ("exit_group", 231), ("rt_sigreturn", 15), ("restart_syscall", 219)]

/-- The number of a system call. -/
def number? (name : String) : Option Nat :=
  (entries.find? fun entry => entry.1 = name).map Prod.snd

/-- The system call that covers one which an architecture may lack. -/
def equivalent? : String → Option String
  | "epoll_wait" => some "epoll_pwait"
  | _ => none

end SelfIsolation.CallTable
