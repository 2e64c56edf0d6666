/-! # Capabilities

The units into which the rights of the superuser are divided. Each has a bit, and
they are listed in the order of their bits, without gaps.
-/

namespace SelfIsolation

/-- A right of the superuser that a process may hold on its own. -/
inductive Capability where
  | chown
  | dacOverride
  | dacReadSearch
  | fowner
  | fsetid
  | kill
  | setgid
  | setuid
  | setpcap
  | linuxImmutable
  | netBindService
  | netBroadcast
  | netAdmin
  | netRaw
  | ipcLock
  | ipcOwner
  | sysModule
  | sysRawio
  | sysChroot
  | sysPtrace
  | sysPacct
  | sysAdmin
  | sysBoot
  | sysNice
  | sysResource
  | sysTime
  | sysTtyConfig
  | mknod
  | lease
  | auditWrite
  | auditControl
  | setfcap
  | macOverride
  | macAdmin
  | syslog
  | wakeAlarm
  | blockSuspend
  | auditRead
  | perfmon
  | bpf
  | checkpointRestore
  deriving DecidableEq

namespace Capability

/-- Every capability, in the order of the bits. -/
def all : List Capability := [
  .chown, .dacOverride, .dacReadSearch, .fowner, .fsetid, .kill,
  .setgid, .setuid, .setpcap, .linuxImmutable, .netBindService, .netBroadcast,
  .netAdmin, .netRaw, .ipcLock, .ipcOwner, .sysModule, .sysRawio,
  .sysChroot, .sysPtrace, .sysPacct, .sysAdmin, .sysBoot, .sysNice,
  .sysResource, .sysTime, .sysTtyConfig, .mknod, .lease, .auditWrite,
  .auditControl, .setfcap, .macOverride, .macAdmin, .syslog, .wakeAlarm,
  .blockSuspend, .auditRead, .perfmon, .bpf, .checkpointRestore]

/-- The bit of a capability in a set. -/
def bit (capability : Capability) : Nat := capability.ctorIdx

/-- The capability with the given bit. -/
def ofBit? (bit : Nat) : Option Capability := all[bit]?

/-- The name of a capability. -/
def name : Capability → String
  | .chown => "CAP_CHOWN"
  | .dacOverride => "CAP_DAC_OVERRIDE"
  | .dacReadSearch => "CAP_DAC_READ_SEARCH"
  | .fowner => "CAP_FOWNER"
  | .fsetid => "CAP_FSETID"
  | .kill => "CAP_KILL"
  | .setgid => "CAP_SETGID"
  | .setuid => "CAP_SETUID"
  | .setpcap => "CAP_SETPCAP"
  | .linuxImmutable => "CAP_LINUX_IMMUTABLE"
  | .netBindService => "CAP_NET_BIND_SERVICE"
  | .netBroadcast => "CAP_NET_BROADCAST"
  | .netAdmin => "CAP_NET_ADMIN"
  | .netRaw => "CAP_NET_RAW"
  | .ipcLock => "CAP_IPC_LOCK"
  | .ipcOwner => "CAP_IPC_OWNER"
  | .sysModule => "CAP_SYS_MODULE"
  | .sysRawio => "CAP_SYS_RAWIO"
  | .sysChroot => "CAP_SYS_CHROOT"
  | .sysPtrace => "CAP_SYS_PTRACE"
  | .sysPacct => "CAP_SYS_PACCT"
  | .sysAdmin => "CAP_SYS_ADMIN"
  | .sysBoot => "CAP_SYS_BOOT"
  | .sysNice => "CAP_SYS_NICE"
  | .sysResource => "CAP_SYS_RESOURCE"
  | .sysTime => "CAP_SYS_TIME"
  | .sysTtyConfig => "CAP_SYS_TTY_CONFIG"
  | .mknod => "CAP_MKNOD"
  | .lease => "CAP_LEASE"
  | .auditWrite => "CAP_AUDIT_WRITE"
  | .auditControl => "CAP_AUDIT_CONTROL"
  | .setfcap => "CAP_SETFCAP"
  | .macOverride => "CAP_MAC_OVERRIDE"
  | .macAdmin => "CAP_MAC_ADMIN"
  | .syslog => "CAP_SYSLOG"
  | .wakeAlarm => "CAP_WAKE_ALARM"
  | .blockSuspend => "CAP_BLOCK_SUSPEND"
  | .auditRead => "CAP_AUDIT_READ"
  | .perfmon => "CAP_PERFMON"
  | .bpf => "CAP_BPF"
  | .checkpointRestore => "CAP_CHECKPOINT_RESTORE"

instance : ToString Capability := ⟨name⟩

end Capability

end SelfIsolation
