import SelfIsolation.CommandLine.Usage
import SelfIsolation.Control.Basic
import SelfIsolation.Host.Status

/-! # The command line of the control program

The program looks at its own process through the files of the process directory.
It has no means to make system calls, so it isolates in rehearsal only.
-/

namespace SelfIsolation.Main

/-- The content of a file, or how it is refused. -/
def readContent (path : String) : IO FileContent := do
  try
    return .octets (← IO.FS.readBinFile path).toList
  catch
    | .noFileOrDirectory _ code _ => return .refused code.toNat
    | .permissionDenied _ code _ => return .refused code.toNat
    | _ => return .refused 5

/-- The files that a command may ask for. -/
def filesFor : Command → List String
  | .check => [Host.uidMap, Host.userNamespaceSwitch, Host.userNamespaceLimit]
  | .isolate arguments => arguments.config.toList
  | _ => []

/-- The host of the program itself, with the files that a command may ask for. -/
def hostFor (command : Command) : IO Host := do
  let files ← (filesFor command).mapM fun path => return (path, ← readContent path)
  let status ← try IO.FS.readFile Host.statusFile catch _ => pure ""
  return Host.ofStatus status files

/-- Whether a record of the log is shown. -/
def isShown (verbose : Bool) (entry : LogRecord) : Bool :=
  verbose || entry.level = .error || entry.level = .warn

/-- Shows what a program has done, and gives the status with which it ended. -/
def present (verbose : Bool) (report : Report) : IO UInt32 := do
  (report.terminal.log.filter (isShown verbose)).forM fun entry => IO.eprintln entry.line
  IO.print report.terminal.output
  IO.eprint report.terminal.errors
  match report.ending with
  | .exited status => return status.toUInt32
  | .violated violation =>
    IO.eprintln violation.message
    return 101

/-- Holds of commands that would need system calls. -/
def needsCalls : Command → Bool
  | .isolate arguments => !arguments.dryRun
  | _ => false

/-- Carries out a command line. -/
def carryOut (line : CommandLine) : IO UInt32 := do
  if needsCalls line.command then
    IO.eprintln "error: system calls are not available, use --dry-run"
    return 1
  present line.verbose (.ofCommand line.command (← hostFor line.command))

/-- Shows why a command line is not carried out. -/
def refuse : UsageError → IO UInt32
  | .help => do
    IO.println CommandLine.help
    return 0
  | .version => do
    IO.println CommandLine.version
    return 0
  | reason => do
    IO.eprintln s!"error: {reason}"
    return 2

end SelfIsolation.Main

/-- Runs the control program. -/
def main (arguments : List String) : IO UInt32 :=
  match SelfIsolation.CommandLine.parse arguments with
  | .ok line => SelfIsolation.Main.carryOut line
  | .error reason => SelfIsolation.Main.refuse reason
