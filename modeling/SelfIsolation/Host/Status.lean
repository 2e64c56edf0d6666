import SelfIsolation.Host.System
import SelfIsolation.Text.Blank

/-! # Status of a process

An operating system tells in a text file what a process is: one line for each of its
properties, with the name of the property before a colon.
-/

namespace SelfIsolation.Host

/-- The file that tells what the process is. -/
def statusFile : String := "/proc/self/status"

/-- What follows a name in a status text. -/
def statusFields (status name : String) : List (List Char) :=
  match (Blank.lines status.toList).findSome? fun line =>
      match Blank.fields line with
      | first :: rest => if first = name.toList ++ [':'] then some rest else none
      | [] => none with
  | some fields => fields
  | none => []

/-- An identity in a status text. -/
def statusIdentity (status name : String) (position : Nat) : UInt32 :=
  UInt32.ofNat (((statusFields status name)[position]?.bind Numeral.readDecimal?).getD 0)

/-- A capability set in a status text. -/
def statusSet (status name : String) : CapSet :=
  ⟨BitVec.ofNat 64 (((statusFields status name)[0]?.bind Numeral.readHexadecimal?).getD 0)⟩

/-- The system of a process with the given status and files. -/
def systemOfStatus (status : String) (files : List (String × FileContent)) : System where
  uid := statusIdentity status "Uid" 0
  gid := statusIdentity status "Gid" 0
  effectiveUid := statusIdentity status "Uid" 1
  files := files
  caps := .ofSets
    { effective := statusSet status "CapEff"
      permitted := statusSet status "CapPrm"
      inheritable := statusSet status "CapInh" }
  bounding := statusSet status "CapBnd"

/-- The host of a process with the given status and files. Filters are supported if the status
tells of them. -/
def ofStatus (status : String) (files : List (String × FileContent)) : Host where
  system := systemOfStatus status files
  script name :=
    if name = .getSeccomp ∧ statusFields status "Seccomp" = [] then .always Errno.einval.number
    else .never

end SelfIsolation.Host
