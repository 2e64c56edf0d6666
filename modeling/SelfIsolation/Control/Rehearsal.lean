import SelfIsolation.Configuration.Basic
import SelfIsolation.Simulation.Kernel

/-! # Rehearsals

A rehearsal takes the four isolation steps on a simulated process and shows every
call that they make, stage by stage. It touches nothing else.
-/

namespace SelfIsolation

/-- A rehearsal under way. -/
structure Rehearsal extends Session SimulatedKernel where
  output : String := ""

/-- A part of a rehearsal. -/
abbrev Rehearsing (α : Type) := EStateM Fault Rehearsal α

namespace Rehearsal

/-- A rehearsal before its first step. -/
def start (kernel : SimulatedKernel) : Rehearsal := { kernel }

/-- The process on which a rehearsal is done: the superuser if the real one is, and otherwise a
user without capabilities. -/
def kernelFor (realUid realGid effectiveUid : UInt32) : SimulatedKernel :=
  if effectiveUid = 0 then .root else .unprivileged realUid realGid

/-- Shows a line. -/
def printLine (line : String) : Rehearsing Unit :=
  modify fun rehearsal => { rehearsal with output := rehearsal.output ++ line ++ "\n" }

/-- The line that shows a call. -/
def callLine (call : String) : String := s!"  {call}"

/-- Takes an isolation step. -/
def takeStep (step : Isolating SimulatedKernel Unit) : Rehearsing Unit := fun rehearsal =>
  match step rehearsal.toSession with
  | .ok () session => .ok () { rehearsal with toSession := session }
  | .error fault session => .error fault { rehearsal with toSession := session }

/-- Shows the stage reached and the calls made to get there, which then are forgotten. -/
def showStage : Rehearsing Unit := do
  let stage := (← get).privileges.stage
  printLine s!"stage {stage}"
  let (calls, kernel) := (← get).kernel.takeJournal
  modify fun rehearsal => { rehearsal with kernel }
  calls.forM fun call => printLine (callLine call.text)

/-- Takes an isolation step and shows it. -/
def takeShown (step : Isolating SimulatedKernel Unit) : Rehearsing Unit := do
  takeStep step
  showStage

/-- Shows what is left in the end. -/
def showRest : Rehearsing Unit := do
  let privileges := (← get).privileges
  printLine s!"\nRetained capabilities: {privileges.retained}"
  printLine s!"Filesystem visible:    {privileges.filesystemVisible}"
  printLine s!"Core dumps:            {privileges.dumpable}"

/-- Rehearses a configuration for a process of the given identity. -/
def rehearse (configuration : Configuration) (realUid realGid : UInt32) : Rehearsing Unit := do
  takeShown (Isolating.initial configuration.startupArguments)
  takeShown (Isolating.user (configuration.userTarget realUid realGid))
  takeShown (Isolating.prefork configuration.context)
  if !configuration.foreground then printLine (callLine "fork()")
  takeShown (Isolating.postfork configuration.context)
  showRest

end Rehearsal

end SelfIsolation
