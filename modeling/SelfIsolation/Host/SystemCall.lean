import SelfIsolation.Capability.ProcessCaps
import SelfIsolation.Filter.Program

/-! # System calls

The calls by which a process acts on the system that hosts it, with their
arguments. A trace lists them together with how they ended. A journal shows the
part of a trace that acts on something: questions that change nothing are left
out of it.
-/

namespace SelfIsolation

/-- A system call with its arguments. -/
inductive SystemCall where
  | dropGroups
  | setGid (gid : UInt32)
  | setUid (uid : UInt32)
  | newSession
  | enterNamespace (path : String) (flags : BitVec 32)
  | unshare (flags : BitVec 32)
  | mount (source : Option String) (target : String) (filesystem : Option String)
      (flags : BitVec 32) (options : Option String)
  | unmount (target : String) (flags : BitVec 32)
  | enterDirectory (path : String)
  | pivotRoot (newRoot oldRoot : String)
  | readCaps
  | writeCaps (sets : ProcessCaps)
  | readBounding (bit : Nat)
  | dropBounding (bit : Nat)
  | closeRange (first last : UInt32)
  | close (descriptor : Int32)
  /-- Sets the soft and the hard limit of core dumps. -/
  | setCoreLimit (soft hard : UInt64)
  | readCoreLimit
  | clearDumpable
  | readDumpable
  | readFilterMode
  | forbidPrivileges
  | loadFilter (program : FilterProgram)
  | fork
  | status (path : String)
  | openFile (path : String)
  | openDirectory (path : String)
  | writeFile (path : String) (content : String)
  deriving DecidableEq

/-- The names of the calls that a script can make fail. -/
inductive CallName where
  | setgroups
  | setgid
  | setuid
  | setsid
  | setns
  | unshare
  | mount
  | umount
  | chdir
  | pivotRoot
  | capget
  | capset
  | boundingRead
  | boundingDrop
  | closeRange
  | close (descriptor : Int32)
  | setrlimit
  | getrlimit
  | setDumpable
  | getDumpable
  | getSeccomp
  | setNoNewPrivs
  | seccomp
  | fork
  deriving DecidableEq

namespace CallName

/-- The names without an argument. -/
def plain : List CallName := [
  .setgroups, .setgid, .setuid, .setsid, .setns, .unshare, .mount, .umount, .chdir, .pivotRoot,
  .capget, .capset, .boundingRead, .boundingDrop, .closeRange, .setrlimit, .getrlimit,
  .setDumpable, .getDumpable, .getSeccomp, .setNoNewPrivs, .seccomp, .fork]

/-- The name as text. -/
def text : CallName → String
  | .setgroups => "setgroups"
  | .setgid => "setgid"
  | .setuid => "setuid"
  | .setsid => "setsid"
  | .setns => "setns"
  | .unshare => "unshare"
  | .mount => "mount"
  | .umount => "umount2"
  | .chdir => "chdir"
  | .pivotRoot => "pivot_root"
  | .capget => "capget"
  | .capset => "capset"
  | .boundingRead => "PR_CAPBSET_READ"
  | .boundingDrop => "PR_CAPBSET_DROP"
  | .closeRange => "close_range"
  | .close descriptor => s!"close:{descriptor}"
  | .setrlimit => "setrlimit"
  | .getrlimit => "getrlimit"
  | .setDumpable => "PR_SET_DUMPABLE"
  | .getDumpable => "PR_GET_DUMPABLE"
  | .getSeccomp => "PR_GET_SECCOMP"
  | .setNoNewPrivs => "PR_SET_NO_NEW_PRIVS"
  | .seccomp => "seccomp"
  | .fork => "fork"

/-- The name that a text denotes. -/
def ofText? (text : String) : Option CallName :=
  match plain.find? fun name => name.text = text with
  | some name => some name
  | none =>
    match Numeral.readInt32? (text.toList.drop "close:".length) with
    | some descriptor =>
      if (close descriptor).text = text then some (.close descriptor) else none
    | none => none

end CallName

namespace SystemCall

/-- The name under which a script can make a call fail; the file table of a system decides about
the other calls. -/
def name? : SystemCall → Option CallName
  | .dropGroups => some .setgroups
  | .setGid _ => some .setgid
  | .setUid _ => some .setuid
  | .newSession => some .setsid
  | .enterNamespace _ _ => some .setns
  | .unshare _ => some .unshare
  | .mount _ _ _ _ _ => some .mount
  | .unmount _ _ => some .umount
  | .enterDirectory _ => some .chdir
  | .pivotRoot _ _ => some .pivotRoot
  | .readCaps => some .capget
  | .writeCaps _ => some .capset
  | .readBounding _ => some .boundingRead
  | .dropBounding _ => some .boundingDrop
  | .closeRange _ _ => some .closeRange
  | .close descriptor => some (.close descriptor)
  | .setCoreLimit _ _ => some .setrlimit
  | .readCoreLimit => some .getrlimit
  | .clearDumpable => some .setDumpable
  | .readDumpable => some .getDumpable
  | .readFilterMode => some .getSeccomp
  | .forbidPrivileges => some .setNoNewPrivs
  | .loadFilter _ => some .seccomp
  | .fork => some .fork
  | .status _ | .openFile _ | .openDirectory _ | .writeFile _ _ => none

/-- The version of the exchange format for capability sets. -/
def capabilityVersion : Nat := 0x20080522

/-- The number by which the limit of core dumps is known. -/
def coreLimitNumber : Nat := 4

/-- The number of the architecture that a filter checks. -/
def architecture : Nat := 0xc000003e

/-- What a filter does with a call that is not allowed: it ends the process. -/
def refusal : Nat := 0x80000000

/-- A string that may be absent. -/
def optionalText (text : Option String) : String := text.getD "NULL"

/-- A number in hexadecimal. -/
def hex (n : Nat) : String := Numeral.mask n

/-- The call as text. -/
def text : SystemCall → String
  | .dropGroups => "setgroups(0)"
  | .setGid gid => s!"setgid({gid})"
  | .setUid uid => s!"setuid({uid})"
  | .newSession => "setsid()"
  | .enterNamespace path flags => s!"setns({path}, {hex flags.toNat})"
  | .unshare flags => s!"unshare({hex flags.toNat})"
  | .mount source target filesystem flags options =>
    s!"mount({optionalText source}, {target}, {optionalText filesystem}, {hex flags.toNat}, " ++
      s!"{optionalText options})"
  | .unmount target flags => s!"umount2({target}, {hex flags.toNat})"
  | .enterDirectory path => s!"chdir({path})"
  | .pivotRoot newRoot oldRoot => s!"pivot_root({newRoot}, {oldRoot})"
  | .readCaps => s!"capget({hex capabilityVersion}, 0)"
  | .writeCaps sets =>
    s!"capset({hex capabilityVersion}, 0, {sets.effective.mask}, {sets.permitted.mask}, " ++
      s!"{sets.inheritable.mask})"
  | .readBounding bit => s!"PR_CAPBSET_READ({bit})"
  | .dropBounding bit => s!"PR_CAPBSET_DROP({bit})"
  | .closeRange first last => s!"close_range({first}, {last}, 0)"
  | .close descriptor => s!"close({descriptor})"
  | .setCoreLimit soft hard => s!"setrlimit({coreLimitNumber}, {soft}, {hard})"
  | .readCoreLimit => s!"getrlimit({coreLimitNumber})"
  | .clearDumpable => "PR_SET_DUMPABLE(0)"
  | .readDumpable => "PR_GET_DUMPABLE()"
  | .readFilterMode => "PR_GET_SECCOMP()"
  | .forbidPrivileges => "PR_SET_NO_NEW_PRIVS(1)"
  | .loadFilter program =>
    let numbers := " ".intercalate ((architecture :: program.numbers).map toString)
    s!"seccomp(1, 0, len={program.size}, jeq={numbers}, default={hex refusal})"
  | .fork => "fork()"
  | .status path => s!"stat({path})"
  | .openFile path => s!"open({path})"
  | .openDirectory path => s!"opendir({path})"
  | .writeFile path content => s!"write({path}, {content})"

end SystemCall

/-- A call that was made, and the number with which it failed, if it did. -/
structure CallEvent where
  call : SystemCall
  failure : Option Int := none
  deriving DecidableEq

namespace CallEvent

/-- What a journal shows of a call. Questions that change nothing are not shown, nor is a listing
that could not be opened. A file that could not be opened is shown as such. -/
def shown? (event : CallEvent) : Option String :=
  match event.call with
  | .readBounding _ | .readCoreLimit | .readDumpable | .readFilterMode | .status _ => none
  | .openDirectory _ => if event.failure.isSome then none else some event.call.text
  | .openFile path | .writeFile path _ =>
    if event.failure.isSome then some s!"open({path}) failed" else some event.call.text
  | call => some call.text

/-- What a journal shows of a trace. -/
def journal (trace : List CallEvent) : List String := trace.filterMap shown?

end CallEvent

end SelfIsolation
