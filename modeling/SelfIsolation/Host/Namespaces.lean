import SelfIsolation.Host.Action
import SelfIsolation.Text.Blank

/-! # Namespaces of a host's process

Leaving namespaces behind, entering a user namespace, and finding out which
namespaces a process is in.
-/

namespace SelfIsolation.Host

/-- Leaves namespaces behind. -/
def unshare (set : NamespaceSet) : Action Unit := do
  note .debug s!"Unsharing namespaces: {set.flagText}"
  attempt .unshare (act (.unshare set.cloneFlags))

/-- Joins the user namespace at a path. -/
def joinUserNamespace (path : String) : Action Unit := do
  let _ ← onFile (fun fault => .namespaces (.cannotOpen path fault)) (openFile path)
  attempt (.enterUserNamespace path) (act (.enterNamespace path NamespaceKind.user.cloneFlag))
  note .debug s!"Joined user namespace {path}"

/-- The file that holds the map of user identities. -/
def uidMap : String := "/proc/self/uid_map"

/-- The file that holds the map of group identities. -/
def gidMap : String := "/proc/self/gid_map"

/-- The file that says whether supplementary groups can be set. -/
def groupSwitch : String := "/proc/self/setgroups"

/-- What is written to make identities the superuser's. Groups cannot be mapped while
supplementary groups can be set. -/
def identityFiles (uid gid : UInt32) : List (String × String) :=
  [(uidMap, idMapLine 0 uid), (groupSwitch, "deny"), (gidMap, idMapLine 0 gid)]

/-- Creates a user namespace in which the given identities are the superuser's. The namespace is
usable without the maps, so a map that cannot be written is only reported. -/
def createUserNamespace (uid gid : UInt32) : Action Unit := do
  attempt .createUserNamespace (act (.unshare NamespaceKind.user.cloneFlag))
  match ← .asking (writeAll (identityFiles uid gid)) with
  | some (path, fault) => note .warn s!"Couldn't configure user mappings ({path}): {fault}"
  | none => note .debug s!"Created user namespace with uid {uid} gid {gid} mapped to root"

/-- The fields of the map that maps every identity to itself. -/
def identityFields : List String := ["0", "0", "4294967295"]

/-- Holds of a map that is one line and maps every identity to itself. -/
def isIdentityMap (content : String) : Bool :=
  match Blank.lines content.toList with
  | [line] => Blank.fields line = identityFields.map String.toList
  | _ => false

/-- Whether the process is in the outermost user namespace, which maps every identity to itself.
Without a readable map it is taken to be. -/
def inInitialUserNamespace : StateM Host Bool := do
  match ← readText? uidMap with
  | some content => return isIdentityMap content
  | none => return true

/-- How the directory of a process is called; `self` is that of the caller. -/
def processName (process : Option Int32) : String := (process.map toString).getD "self"

/-- The number of a namespace of a process. -/
def namespaceInode (kind : NamespaceKind) (process : Option Int32) : Action Nat :=
  onFile (fun fault => .namespaces (.noInformation (processName process) kind fault))
    (inode s!"/proc/{processName process}/ns/{kind.procName}")

/-- Whether two processes are in the same namespace of a kind. -/
def sharesNamespace (kind : NamespaceKind) (left right : Option Int32) : Action Bool := do
  let leftNumber ← namespaceInode kind left
  let rightNumber ← namespaceInode kind right
  return leftNumber = rightNumber

end SelfIsolation.Host
