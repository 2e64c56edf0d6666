import SelfIsolation.Text.Numeral

/-! # Namespaces

The kinds of namespaces that a process can leave behind, sets of them, and the
flags by which the kernel knows them.
-/

namespace SelfIsolation

/-- A kind of namespace. -/
inductive NamespaceKind where
  | user
  | mount
  | ipc
  | uts
  | pid
  | net
  deriving DecidableEq

namespace NamespaceKind

/-- Every kind, in the order they are listed. -/
def all : List NamespaceKind := [.user, .mount, .ipc, .uts, .pid, .net]

/-- The name under which a process directory shows the namespace. -/
def procName : NamespaceKind → String
  | .user => "user"
  | .mount => "mnt"
  | .ipc => "ipc"
  | .uts => "uts"
  | .pid => "pid"
  | .net => "net"

/-- The flag that asks the kernel for a new namespace. -/
def cloneFlag : NamespaceKind → BitVec 32
  | .user => 0x10000000
  | .mount => 0x00020000
  | .ipc => 0x08000000
  | .uts => 0x04000000
  | .pid => 0x20000000
  | .net => 0x40000000

/-- The name of the flag. -/
def flagName : NamespaceKind → String
  | .user => "CLONE_NEWUSER"
  | .mount => "CLONE_NEWNS"
  | .ipc => "CLONE_NEWIPC"
  | .uts => "CLONE_NEWUTS"
  | .pid => "CLONE_NEWPID"
  | .net => "CLONE_NEWNET"

/-- Every kind, in the order in which flags are named. -/
def flagOrder : List NamespaceKind := [.mount, .uts, .ipc, .user, .pid, .net]

end NamespaceKind

/-- A set of namespace kinds. -/
structure NamespaceSet where
  user : Bool := false
  mount : Bool := false
  ipc : Bool := false
  uts : Bool := false
  pid : Bool := false
  net : Bool := false
  deriving DecidableEq

namespace NamespaceSet

instance : EmptyCollection NamespaceSet := ⟨{}⟩

/-- What is left behind before forking: mounts, communication objects, host names, and process
numbers where asked for. -/
def prefork (pid : Bool) : NamespaceSet := { mount := true, ipc := true, uts := true, pid }

/-- Holds of the kinds in a set. -/
def contains (set : NamespaceSet) : NamespaceKind → Bool
  | .user => set.user
  | .mount => set.mount
  | .ipc => set.ipc
  | .uts => set.uts
  | .pid => set.pid
  | .net => set.net

instance : Union NamespaceSet where
  union left right :=
    { user := left.user || right.user
      mount := left.mount || right.mount
      ipc := left.ipc || right.ipc
      uts := left.uts || right.uts
      pid := left.pid || right.pid
      net := left.net || right.net }

/-- The kinds in a set, in the order they are listed. -/
def kinds (set : NamespaceSet) : List NamespaceKind := NamespaceKind.all.filter set.contains

/-- The flags of all kinds in a set. -/
def cloneFlags (set : NamespaceSet) : BitVec 32 :=
  set.kinds.foldl (fun flags kind => flags ||| kind.cloneFlag) 0

/-- The flags of a set by name. -/
def flagText (set : NamespaceSet) : String :=
  let names := (NamespaceKind.flagOrder.filter set.contains).map NamespaceKind.flagName
  let flags := if names.isEmpty then "0x0" else " | ".intercalate names
  s!"CloneFlags({flags})"

end NamespaceSet

/-- The line of an identity map that maps one identity. -/
def idMapLine (inside outside : UInt32) : String := s!"{inside} {outside} 1"

end SelfIsolation
