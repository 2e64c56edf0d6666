import SelfIsolation.Capability.ProcessCaps
import SelfIsolation.Filter.Basic

/-! # The privilege record

What the stages have given up so far. The record is a promise about the process, so
it may only narrow: recording more capabilities than were left is a violation, as is
a stage called out of order.
-/

namespace SelfIsolation

/-- How far the isolation has come. -/
inductive Stage where
  | startup
  /-- Descriptors are closed and capabilities narrowed. -/
  | initial
  /-- The process runs under its own identity. -/
  | userSwitched
  /-- Namespaces and the filesystem are left behind. -/
  | preforkIsolated
  /-- Core dumps are off and the filter is installed. -/
  | postforkIsolated
  deriving DecidableEq

namespace Stage

/-- Every stage, first to last. -/
def all : List Stage := [.startup, .initial, .userSwitched, .preforkIsolated, .postforkIsolated]

/-- The number of stages before this one. -/
def index : Stage → Nat
  | .startup => 0
  | .initial => 1
  | .userSwitched => 2
  | .preforkIsolated => 3
  | .postforkIsolated => 4

/-- The name of a stage. -/
def name : Stage → String
  | .startup => "startup"
  | .initial => "initial"
  | .userSwitched => "user-switched"
  | .preforkIsolated => "prefork-isolated"
  | .postforkIsolated => "postfork-isolated"

/-- The stage that follows. -/
def next? : Stage → Option Stage
  | .startup => some .initial
  | .initial => some .userSwitched
  | .userSwitched => some .preforkIsolated
  | .preforkIsolated => some .postforkIsolated
  | .postforkIsolated => none

instance : ToString Stage := ⟨name⟩

end Stage

/-- A breach of the protocol of the stages. -/
inductive Violation where
  | outOfOrder (step : String) (reached expected : Stage)
  | capsWidened (old new : ProcessCaps)
  | boundingWidened (old new : CapSet)
  | noStageAfter (stage : Stage)
  deriving DecidableEq

namespace Violation

/-- What is said of a violation. -/
def message : Violation → String
  | .outOfOrder step reached expected =>
    s!"{step} called at stage {reached}, expected stage {expected}"
  | .capsWidened old new =>
    s!"capability sets widened from {old.fieldsText} to {new.fieldsText}"
  | .boundingWidened old new => s!"bounding set widened from {old} to {new}"
  | .noStageAfter stage => s!"no stage after {stage}"

end Violation

/-- The user namespace of a process. -/
inductive UserNamespace where
  | inherited
  | joined (path : String)
  | created
  deriving DecidableEq

/-- What is known to have been given up. -/
structure PrivilegeRecord where
  stage : Stage := .startup
  /-- The capability sets, if they are known. -/
  caps : Option ProcessCaps := none
  /-- The bounding set, if it is known. -/
  bounding : Option CapSet := none
  uid : Option UInt32 := none
  gid : Option UInt32 := none
  groupsCleared : Bool := false
  /-- The descriptor that was kept. -/
  designated : Option Int32 := none
  userNamespace : UserNamespace := .inherited
  namespaces : NamespaceSet := ∅
  filesystemVisible : Bool := true
  dumpable : Bool := true
  filter : Option FilterProfile := none
  deriving DecidableEq

namespace PrivilegeRecord

/-- The record before the first stage. -/
def start : PrivilegeRecord := {}

/-- The capabilities that are known to be left. -/
def retained (entry : PrivilegeRecord) : CapSet :=
  match entry.caps with
  | some sets => sets.retained
  | none => ∅

/-- Records capability sets, which may not be wider than the recorded ones. -/
def withCaps (entry : PrivilegeRecord) (sets : ProcessCaps) : Except Violation PrivilegeRecord :=
  match entry.caps with
  | some old =>
    if old.Narrows sets then .ok { entry with caps := some sets }
    else .error (.capsWidened old sets)
  | none => .ok { entry with caps := some sets }

/-- Records a bounding set, which may not be wider than the recorded one. -/
def withBounding (entry : PrivilegeRecord) (bounding : CapSet) :
    Except Violation PrivilegeRecord :=
  match entry.bounding with
  | some old =>
    if bounding ⊆ old then .ok { entry with bounding := some bounding }
    else .error (.boundingWidened old bounding)
  | none => .ok { entry with bounding := some bounding }

/-- Records an identity. -/
def withIdentity (entry : PrivilegeRecord) (uid gid : UInt32) (groupsCleared : Bool) :
    PrivilegeRecord :=
  { entry with uid := some uid, gid := some gid, groupsCleared }

/-- Records a user namespace. Capabilities in it are not those outside, so they are unknown. -/
def withUserNamespace (entry : PrivilegeRecord) (userNamespace : UserNamespace) :
    PrivilegeRecord :=
  { entry with userNamespace, caps := none }

/-- Records that a stage is complete. -/
def advance (entry : PrivilegeRecord) : Except Violation PrivilegeRecord :=
  match entry.stage.next? with
  | some stage => .ok { entry with stage }
  | none => .error (.noStageAfter entry.stage)

end PrivilegeRecord

end SelfIsolation
