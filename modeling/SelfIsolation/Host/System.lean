import SelfIsolation.EmptyRoot
import SelfIsolation.Errno
import SelfIsolation.Host.SystemCall

/-! # Scripted systems

A system that hosts a process, as far as the isolation steps can see it. Every call
is answered from a table: a script decides which calls fail, and the others follow
the rules of the system. A call that fails changes nothing. Every call is traced.
-/

namespace SelfIsolation

/-- What opening a file yields. -/
inductive FileContent where
  | text (content : String)
  /-- Octets that need not be a text. -/
  | octets (content : List UInt8)
  | refused (code : Int)
  deriving DecidableEq

/-- A system as a process sees it. -/
structure System where
  uid : UInt32 := 0
  gid : UInt32 := 0
  /-- The effective user identity, which is reported as it is here whatever identity is taken on. -/
  effectiveUid : UInt32 := 0
  /-- The files with their content; a file that is not listed can be written but not read. -/
  files : List (String × FileContent) := []
  directories : List String := [EmptyRoot.defaultScratch]
  /-- The paths of other files with their numbers. -/
  inodes : List (String × Nat) := []
  /-- The names in the listing of the descriptors, if there is one. -/
  descriptorNames : Option (List String) := none
  /-- The number of capability bits that the kernel knows. -/
  capabilityBits : Nat := 41
  caps : CapRecords :=
    .ofSets { effective := .lowest capabilityBits, permitted := .lowest capabilityBits }
  bounding : CapSet := .lowest capabilityBits
  /-- The soft and the hard limit of core dumps. -/
  coreLimit : UInt64 × UInt64 := (0xffffffffffffffff, 0xffffffffffffffff)
  dumpable : Bool := true
  noNewPrivileges : Bool := false
  /-- The filters in force, the newest last. -/
  filters : List FilterProgram := []
  ownSession : Bool := false
  /-- What a fork yields: zero in the child, the number of the child in the parent. -/
  forkResult : Int := 4242
  deriving DecidableEq

namespace System

/-- What opening a file for reading yields. -/
def openFile (system : System) (path : String) : Except Int FileContent :=
  match system.files.lookup path with
  | some (.refused code) => .error code
  | some content => .ok content
  | none => .error Errno.enoent.number

/-- Opening a file for writing is refused only where the file is listed so. -/
def writeFile (system : System) (path : String) : Except Int Unit :=
  match system.files.lookup path with
  | some (.refused code) => .error code
  | _ => .ok ()

/-- Whether there is a directory at a path, and the number of what is there. -/
def status (system : System) (path : String) : Except Int (Bool × Nat) :=
  let isDirectory := system.directories.contains path
  match system.inodes.lookup path with
  | some number => .ok (isDirectory, number)
  | none => if isDirectory then .ok (true, 0) else .error Errno.enoent.number

/-- The names in the listing of the descriptors. -/
def listing (system : System) : Except Int (List String) :=
  match system.descriptorNames with
  | some names => .ok names
  | none => .error Errno.enoent.number

/-- Whether a bit is in the bounding set; the kernel has to know it. -/
def readBounding (system : System) (bit : Nat) : Except Int Bool :=
  if bit < system.capabilityBits then .ok (system.bounding.containsBit bit)
  else .error Errno.einval.number

/-- Drops a bit from the bounding set; the kernel has to know it. -/
def dropBounding (system : System) (bit : Nat) : Except Int System :=
  if bit < system.capabilityBits then
    .ok { system with bounding := system.bounding.eraseBit bit }
  else .error Errno.einval.number

end System

/-- Which calls of one name fail, and with which number. -/
inductive Script where
  | never
  | always (code : Int)
  /-- The next calls fail with these numbers, zero standing for success; later ones succeed. -/
  | listed (codes : List Int)
  deriving DecidableEq

namespace Script

/-- How the next call fails, if it does, and the script for those after it. -/
def next : Script → Option Int × Script
  | .never => (none, .never)
  | .always code => (some code, .always code)
  | .listed [] => (none, .listed [])
  | .listed (code :: codes) => (if code = 0 then none else some code, .listed codes)

end Script

/-- A system with the script for its calls and the trace of those made. -/
structure Host where
  system : System := {}
  script : CallName → Script := fun _ => .never
  trace : List CallEvent := []

namespace Host

instance : Inhabited Host := ⟨{}⟩

/-- The journal of the calls made so far. -/
def journal (host : Host) : List String := CallEvent.journal host.trace

/-- How the script lets a call fail, if it does, and the script after it. -/
def scripted (host : Host) (call : SystemCall) : Option Int × (CallName → Script) :=
  match call.name? with
  | none => (none, host.script)
  | some name =>
    let (failure, later) := (host.script name).next
    (failure, fun other => if other = name then later else host.script other)

/-- Makes a call: it fails as the script has it, or else follows the rule of the system. -/
def make {α : Type} (call : SystemCall) (rule : System → Except Int (α × System)) :
    EStateM Int Host α := fun host =>
  let (scripted, script) := host.scripted call
  let answer : Except Int (α × System) := match scripted with
    | some code => .error code
    | none => rule host.system
  match answer with
  | .ok (value, system) => .ok value { system, script, trace := host.trace ++ [⟨call, none⟩] }
  | .error code =>
    .error code { host with script, trace := host.trace ++ [⟨call, some code⟩] }

/-- How calls ended; their failure is an answer here. -/
def ending {ε α : Type} (action : EStateM ε Host α) : StateM Host (Except ε α) := fun host =>
  match action host with
  | .ok value host => (.ok value, host)
  | .error e host => (.error e, host)

/-- A call that changes the system in one way. -/
def act (call : SystemCall) (change : System → System := id) : EStateM Int Host Unit :=
  make call fun system => .ok ((), change system)

/-- A call that only asks. -/
def ask {α : Type} (call : SystemCall) (question : System → Except Int α) : EStateM Int Host α :=
  make call fun system => (question system).map fun value => (value, system)

end Host

end SelfIsolation
