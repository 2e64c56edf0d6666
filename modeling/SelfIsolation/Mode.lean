import SelfIsolation.Text.LowerCase

/-! # Operating modes

The daemon bridges for a virtual machine or for a network namespace. A mode that
does not own a user namespace of its own, or only joins a network namespace, is
restricted: it cannot count on `CAP_SETPCAP`.
-/

namespace SelfIsolation

/-- What the daemon bridges for. -/
inductive Mode where
  /-- A virtual machine over a socket. -/
  | passt
  /-- A network namespace over a tap device. -/
  | pasta
  /-- A virtual machine over shared memory rings. -/
  | vhostUser
  deriving DecidableEq

namespace Mode

/-- The name of a mode. -/
def name : Mode → String
  | .passt => "passt"
  | .pasta => "pasta"
  | .vhostUser => "vhost-user"

/-- What a mode is for. -/
def description : Mode → String
  | .passt => "VM transport over a UNIX domain socket"
  | .pasta => "tap device in a network namespace"
  | .vhostUser => "vhost-user backend with shared memory rings"

/-- The mode that a lower-case word names; `vu` is short for the last one. -/
def ofWord? : String → Option Mode
  | "passt" => some .passt
  | "pasta" => some .pasta
  | "vhost-user" => some .vhostUser
  | "vu" => some .vhostUser
  | _ => none

/-- The mode of exactly this name. -/
def ofName? (name : String) : Option Mode :=
  [passt, pasta, vhostUser].find? fun mode => mode.name = name

/-- Reads a mode in any case; a text that names none is given back in lower case. -/
def parse (text : String) : Except String Mode :=
  match ofWord? (LowerCase.lower text) with
  | some mode => .ok mode
  | none => .error (LowerCase.lower text)

/-- What is said of a lower-case text that names no mode. -/
def unknownMessage (word : String) : String := s!"Unknown mode: {word}"

instance : ToString Mode := ⟨name⟩

end Mode

/-- A mode, and whether only the network namespace is joined. -/
structure OperatingMode where
  mode : Mode
  /-- No user namespace is joined along with the network namespace. -/
  netnsOnly : Bool := false
  deriving DecidableEq

namespace OperatingMode

/-- Holds where `CAP_SETPCAP` cannot be counted on. -/
def isRestricted (operating : OperatingMode) : Bool :=
  operating.netnsOnly || operating.mode ≠ .pasta

/-- Holds where a network namespace is bridged. -/
def isPasta (operating : OperatingMode) : Bool := operating.mode = .pasta

instance : ToString OperatingMode :=
  ⟨fun operating =>
    if operating.netnsOnly then s!"{operating.mode} (netns only)" else toString operating.mode⟩

end OperatingMode

end SelfIsolation
