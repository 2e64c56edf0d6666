import SelfIsolation.Failure
import SelfIsolation.Host.System

/-! # Files of a host

Reading, writing and looking at files. A path that no file can have is refused
before the system is asked.
-/

namespace SelfIsolation.Host

/-- Holds of the texts that can be paths. -/
def isPath (path : String) : Bool := !path.toList.contains '\x00'

/-- Asks the system about a path, if it can be one. -/
def atPath {α : Type} (path : String) (call : EStateM Int Host α) : EStateM FileFault Host α :=
  if isPath path then EStateM.adaptExcept .refused call else throw .invalidPath

/-- Opens a file for reading. -/
def openFile (path : String) : EStateM FileFault Host FileContent :=
  atPath path (ask (.openFile path) fun system => system.openFile path)

/-- Reads a file that holds a text. -/
def readText (path : String) : EStateM FileFault Host String := do
  match ← openFile path with
  | .text content => return content
  | .octets content =>
    match String.fromUTF8? ⟨content.toArray⟩ with
    | some text => return text
    | none => throw .notText
  | .refused code => throw (.refused code)

/-- The text of a file, if it can be read. -/
def readText? (path : String) : StateM Host (Option String) := do
  return (← ending (readText path)).toOption

/-- Writes a text to a file. -/
def writeText (path content : String) : EStateM FileFault Host Unit :=
  atPath path (ask (.writeFile path content) fun system => system.writeFile path)

/-- Writes files one after another until one cannot be written, and says which and why. -/
def writeAll : List (String × String) → StateM Host (Option (String × FileFault))
  | [] => return none
  | (path, content) :: others => do
    match ← ending (writeText path content) with
    | .ok () => writeAll others
    | .error fault => return some (path, fault)

/-- Looks at what is at a path: whether it is a directory, and its number. -/
def status (path : String) : EStateM FileFault Host (Bool × Nat) :=
  atPath path (ask (.status path) fun system => system.status path)

/-- Whether there is a directory at a path. -/
def isDirectory (path : String) : StateM Host Bool := do
  match ← ending (status path) with
  | .ok (isDirectory, _) => return isDirectory
  | .error _ => return false

/-- The number of the file at a path. -/
def inode (path : String) : EStateM FileFault Host Nat := do
  return (← status path).2

end SelfIsolation.Host
