import SelfIsolation.Host.Action

/-! # Core dumps of a host's process

A core dump would show what the process holds in memory. Dumps are off when the
dumpable flag is cleared and the limit is zero.
-/

namespace SelfIsolation.Host

/-- Forbids core dumps. -/
def disableCoreDumps : Action Unit := do
  attempt .clearDumpable (act .clearDumpable fun system => { system with dumpable := false })
  attempt .setCoreLimit (act (.setCoreLimit 0 0) fun system => { system with coreLimit := (0, 0) })

/-- Whether core dumps are possible. -/
def isDumpable : Action Bool :=
  attempt .readDumpable (ask .readDumpable fun system => .ok system.dumpable)

/-- The soft and the hard limit of core dumps. -/
def coreLimit : Action (UInt64 × UInt64) :=
  attempt .readCoreLimit (ask .readCoreLimit fun system => .ok system.coreLimit)

end SelfIsolation.Host
