import SelfIsolation.Lifecycle.Steps

/-! # Configurations

All that the four isolation steps need to know about a daemon's setup. A
configuration is valid if its settings go together; every configuration that a
document or a command line yields is.
-/

namespace SelfIsolation

/-- A daemon's setup. -/
structure Configuration where
  /-- The user identity to take on, instead of the real one. -/
  uid : Option UInt32 := none
  /-- The group identity to take on, instead of the real one. -/
  gid : Option UInt32 := none
  userNamespace : Option String := none
  /-- Whether to create a user namespace where none is joined, if that is set. -/
  createUserNamespace : Option Bool := none
  mode : Mode := .passt
  netnsOnly : Bool := false
  foreground : Bool := false
  scratch : String := EmptyRoot.defaultScratch
  descriptor : Option Int32 := none
  deriving DecidableEq

namespace Configuration

instance : Inhabited Configuration := ⟨{}⟩

/-- Holds of paths that start at the root. -/
def isAbsolute (path : String) : Bool := path.toList.head? = some '/'

/-- Refuses settings that do not go together. -/
def validate (configuration : Configuration) : Except ConfigReason Unit := do
  if configuration.netnsOnly ∧ configuration.mode ≠ .pasta then
    throw (.netnsOnly configuration.mode)
  match configuration.descriptor with
  | some descriptor => if descriptor < 0 then throw (.negativeDescriptor descriptor)
  | none => pure ()
  if !isAbsolute configuration.scratch then throw (.relativeScratch configuration.scratch)

/-- The configuration, if its settings go together. -/
def validated (configuration : Configuration) : Except ConfigReason Configuration := do
  configuration.validate
  return configuration

/-- The operating mode. -/
def operating (configuration : Configuration) : OperatingMode :=
  { mode := configuration.mode, netnsOnly := configuration.netnsOnly }

/-- Whether a user namespace is created where none is joined: unless set, wherever the daemon is
not limited to an existing network namespace. -/
def createsUserNamespace (configuration : Configuration) : Bool :=
  configuration.createUserNamespace.getD (!configuration.netnsOnly)

/-- The arguments for the initial step. -/
def startupArguments (configuration : Configuration) : List String :=
  match configuration.descriptor with
  | some descriptor => ["--fd", toString descriptor]
  | none => []

/-- Whom the process becomes, given its real identity. -/
def userTarget (configuration : Configuration) (realUid realGid : UInt32) : UserTarget where
  uid := configuration.uid.getD realUid
  gid := configuration.gid.getD realGid
  useUserNamespace := configuration.createsUserNamespace
  userNamespace := configuration.userNamespace
  operating := configuration.operating

/-- What the later steps depend on. -/
def context (configuration : Configuration) : IsolationContext where
  operating := configuration.operating
  foreground := configuration.foreground
  root := ⟨configuration.scratch⟩

end Configuration

end SelfIsolation
