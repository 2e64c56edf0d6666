import SelfIsolation.Control.Isolate
import SelfIsolation.Control.Query
import SelfIsolation.Host.Features

/-! # The control program

The control program shows what a system offers and what a process holds, answers
questions about addresses, lists filters, and isolates its own process.
-/

namespace SelfIsolation

namespace Program

/-- Shows an answer, or why there is none. -/
def answer (found : Except QueryError String) : Program Unit :=
  match found with
  | .ok text => printLine text
  | .error reason => refuse reason.message

/-- The status that says that two addresses do not match. -/
def mismatch : UInt8 := 2

/-- Says whether two addresses match. -/
def compareAddresses (left right : String) : Program Unit :=
  match Query.compareAddresses left right with
  | .ok true => printLine "match"
  | .ok false => do
    printLine "no match"
    exit mismatch
  | .error reason => refuse reason.message

/-- Lists what a mode's filter allows. -/
def listFilter (mode : Mode) : Program Unit := do
  note .info s!"Listing seccomp allow-list for {mode}"
  let profile := FilterProfile.ofMode mode
  let filter := Filter.ofProfile profile
  printLine s!"Runtime syscalls for {mode} ({profile.description}):\n"
  filter.names.forM fun name => printLine s!"  {name}"
  match filter.compile with
  | .ok program => printLine s!"\n{filter.count} syscalls, {program.size} BPF instructions"
  | .error reason => printLine s!"\nerror: {Failure.filter reason}"

/-- Shows the capability sets of the process. -/
def showCaps : Program Unit := do
  printLine "\nCapabilities:"
  match ← ask (Host.ending Host.readCaps) with
  | .ok sets =>
    printLine s!"  effective:   {sets.effective}"
    printLine s!"  permitted:   {sets.permitted}"
    printLine s!"  inheritable: {sets.inheritable}"
  | .error errno => printLine s!"  [--] capget() failed: {errno}"
  let bounding ← ask Host.boundingSet
  printLine s!"  bounding:    {bounding.toList.length} capabilities"

/-- A text with blanks after it, so that it is at least five characters long. -/
def column (text : String) : String := String.ofList (text.toList.rightpad 5 ' ')

/-- Shows the number of a namespace of the process. -/
def showNamespace (kind : NamespaceKind) : Program Unit := do
  match ← attempt (Host.namespaceInode kind none) with
  | .ok number => printLine s!"  {column kind.procName} {number}"
  | .error _ => printLine s!"  {column kind.procName} unavailable"

/-- Shows what the system offers and what the process holds. -/
def check : Program Unit := do
  note .info "Checking isolation requirements"
  printLine "Checking isolation requirements...\n"
  let features ← ask Host.detectFeatures
  printLine features.summary
  showCaps
  printLine "\nNamespaces:"
  NamespaceKind.all.forM showNamespace
  let system := (← get).kernel.system
  printLine "\nSystem info:"
  printLine s!"  UID: {system.uid}"
  printLine s!"  GID: {system.gid}"

/-- Carries out a command. -/
def carryOut : Command → Program Unit
  | .check => check
  | .showAddress text => answer (Query.showAddress text)
  | .showBlock text => answer (Query.showBlock text)
  | .compareAddresses left right => compareAddresses left right
  | .listFilter mode => listFilter mode
  | .isolate arguments => isolate arguments

end Program

/-- What a program has done when it has ended. -/
structure Report where
  ending : Ending
  terminal : Terminal

namespace Report

/-- Runs a program on a host. A program that comes to its end has succeeded. -/
def ofProgram (program : Program Unit) (host : Host) : Report :=
  match program { kernel := host } with
  | .ok () terminal => ⟨.exited Program.success, terminal⟩
  | .error ending terminal => ⟨ending, terminal⟩

/-- Runs a command on a host. -/
def ofCommand (command : Command) (host : Host) : Report :=
  ofProgram (Program.carryOut command) host

end Report

end SelfIsolation
