import SelfIsolation.Configuration.Overlay
import SelfIsolation.Control.Program
import SelfIsolation.Control.Rehearsal

/-! # Isolating a process

The isolation steps are taken on the process of the program itself, or rehearsed.
Unless it stays in the foreground, the process forks before the last step: the
parent is done then, and the child goes on in a session of its own.
-/

namespace SelfIsolation

namespace Program

/-- Loads the configuration that a file holds. -/
def loadConfiguration (path : String) : Host.Action Configuration := do
  let document ←
    Host.onFile (fun fault => .configuration (.unreadable path fault)) (Host.readText path)
  match Configuration.parse document with
  | .ok configuration => return configuration
  | .error reason => throw (.configuration reason)

/-- The configuration that arguments are put on top of: that of the file that they name, or the
default one. -/
def baseConfiguration (arguments : IsolateArguments) : Host.Action Configuration :=
  match arguments.config with
  | some path => do
    Host.note .debug s!"Loading configuration from {path}"
    loadConfiguration path
  | none => return {}

/-- A configuration whose settings go together, or else the failure. -/
def requireValid (configuration : Configuration) : Host.Action Configuration :=
  match configuration.validated with
  | .ok configuration => return configuration
  | .error reason => throw (.configuration reason)

/-- Builds the configuration that arguments stand for. -/
def buildConfiguration (arguments : IsolateArguments) : Host.Action Configuration := do
  requireValid (arguments.overlay (← baseConfiguration arguments))

/-- Starts a session. -/
def newSession : Host.Action Unit :=
  Host.attempt .newSession
    (Host.act .newSession fun system => { system with ownSession := true })

/-- Forks. The answer is zero in the child, and the number of the child in the parent. -/
def fork : Host.Action Int :=
  Host.attempt .fork (Host.ask .fork fun system => .ok system.forkResult)

/-- Leaves the parent behind: it ends here, and the child starts a session. -/
def detach : Program Unit := do
  let child ← orDie fork
  if child = 0 then orDie newSession
  else
    printLine s!"isolated child: {child}"
    exit success

/-- Takes the isolation steps on the process of the program. -/
def isolateHere (configuration : Configuration) : Program Unit := do
  takeStep (Isolating.initial configuration.startupArguments)
  let system := (← get).kernel.system
  takeStep (Isolating.user (configuration.userTarget system.uid system.gid))
  takeStep (Isolating.prefork configuration.context)
  if !configuration.foreground then detach
  takeStep (Isolating.postfork configuration.context)
  let stage := (← get).privileges.stage
  complain s!"[ok] isolation complete, stage {stage}"
  exit success

/-- Takes over what a rehearsal has shown and reported. -/
def takeOver (rehearsal : Rehearsal) : Program Unit :=
  modify fun terminal =>
    { terminal with
      output := terminal.output ++ rehearsal.output
      log := terminal.log ++ rehearsal.log }

/-- Rehearses the isolation steps. -/
def rehearse (configuration : Configuration) : Program Unit := do
  let system := (← get).kernel.system
  let kernel := Rehearsal.kernelFor system.uid system.gid system.effectiveUid
  match Rehearsal.rehearse configuration system.uid system.gid (.start kernel) with
  | .ok () rehearsal => takeOver rehearsal
  | .error (.failed reason) rehearsal => do
    takeOver rehearsal
    refuse reason.message
  | .error (.violated violation) rehearsal => do
    takeOver rehearsal
    throw (.violated violation)

/-- Carries out the isolation that arguments ask for. -/
def isolate (arguments : IsolateArguments) : Program Unit := do
  match ← attempt (buildConfiguration arguments) with
  | .error reason => refuse reason.message
  | .ok configuration =>
    note .info s!"Isolating in {configuration.operating} mode"
    if arguments.dryRun then rehearse configuration else isolateHere configuration

end Program

end SelfIsolation
