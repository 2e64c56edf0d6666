import SelfIsolation.CommandLine.Reading

/-! # Command lines

A command line is general options, the name of a command, and the arguments of that
command. The general options may be given before and after the name.
-/

namespace SelfIsolation

/-- What the command line says of a daemon's setup. -/
structure IsolateArguments where
  config : Option String := none
  mode : Option Mode := none
  uid : Option UInt32 := none
  gid : Option UInt32 := none
  userNamespace : Option String := none
  createUserNamespace : Option Bool := none
  netnsOnly : Bool := false
  foreground : Bool := false
  scratch : Option String := none
  descriptor : Option Int32 := none
  dryRun : Bool := false
  deriving DecidableEq

/-- What is asked for. -/
inductive Command where
  | check
  | showAddress (text : String)
  | showBlock (text : String)
  | compareAddresses (left right : String)
  | listFilter (mode : Mode)
  | isolate (arguments : IsolateArguments)
  deriving DecidableEq

/-- The name of a command. -/
inductive CommandName where
  | check
  | addr
  | cidr
  | matching
  | seccomp
  | isolate
  deriving DecidableEq

namespace CommandName

/-- Every command. -/
def all : List CommandName := [.check, .addr, .cidr, .matching, .seccomp, .isolate]

/-- The name as text. -/
def text : CommandName → String
  | .check => "check"
  | .addr => "addr"
  | .cidr => "cidr"
  | .matching => "match"
  | .seccomp => "seccomp"
  | .isolate => "isolate"

/-- The command of a name. -/
def ofText? (text : String) : Option CommandName := all.find? fun name => name.text = text

/-- What a command can be given. -/
def accepted : CommandName → Accepted
  | .check => ⟨[.verbose, .help], 0⟩
  | .addr => ⟨[.verbose, .help], 1⟩
  | .cidr => ⟨[.verbose, .help], 1⟩
  | .matching => ⟨[.verbose, .help], 2⟩
  | .seccomp => ⟨[.verbose, .help, .mode], 0⟩
  | .isolate =>
    ⟨[.verbose, .help, .config, .mode, .uid, .gid, .userNamespace, .withUserNamespace,
      .withoutUserNamespace, .netnsOnly, .foreground, .scratch, .descriptor, .dryRun], 0⟩

end CommandName

namespace Reading

/-- The path given to an option. -/
def path? (reading : Reading) (option : CommandOption) : Option String :=
  match reading.value? option with
  | some (.path path) => some path
  | _ => none

/-- The identity given to an option. -/
def identity? (reading : Reading) (option : CommandOption) : Option UInt32 :=
  match reading.value? option with
  | some (.identity identity) => some identity
  | _ => none

/-- The mode given. -/
def mode? (reading : Reading) : Option Mode :=
  match reading.value? .mode with
  | some (.mode mode) => some mode
  | _ => none

/-- The descriptor given. -/
def descriptor? (reading : Reading) : Option Int32 :=
  match reading.value? .descriptor with
  | some (.descriptor descriptor) => some descriptor
  | _ => none

/-- Whether to create a user namespace, if that was said. -/
def createUserNamespace? (reading : Reading) : Option Bool :=
  if reading.has .withUserNamespace then some true
  else if reading.has .withoutUserNamespace then some false
  else none

/-- What was said of a daemon's setup. -/
def isolateArguments (reading : Reading) : IsolateArguments where
  config := reading.path? .config
  mode := reading.mode?
  uid := reading.identity? .uid
  gid := reading.identity? .gid
  userNamespace := reading.path? .userNamespace
  createUserNamespace := reading.createUserNamespace?
  netnsOnly := reading.has .netnsOnly
  foreground := reading.has .foreground
  scratch := reading.path? .scratch
  descriptor := reading.descriptor?
  dryRun := reading.has .dryRun

/-- The command that was read. -/
def command (reading : Reading) : CommandName → Command
  | .check => .check
  | .addr => .showAddress (reading.operands.getD 0 "")
  | .cidr => .showBlock (reading.operands.getD 0 "")
  | .matching => .compareAddresses (reading.operands.getD 0 "") (reading.operands.getD 1 "")
  | .seccomp => .listFilter (reading.mode?.getD .passt)
  | .isolate => .isolate reading.isolateArguments

end Reading

/-- A command line that was understood. -/
structure CommandLine where
  verbose : Bool := false
  command : Command
  deriving DecidableEq

namespace CommandLine

/-- The word that asks for help on commands. -/
def helpWord : String := "help"

/-- What can be given before the name of a command. -/
def general : Accepted := ⟨[.verbose, .help, .version], 0⟩

/-- What becomes of a request for help on the named commands. -/
def helpOn : List String → UsageError
  | [] => .help
  | [name] => if (CommandName.ofText? name).isSome ∨ name = helpWord then .help else .unknownCommand
  | _ => .unknownCommand

/-- What is wrong with a word that stands where a command is expected. After a separator, not even
the name of a command is one. -/
def misplaced (separated : Bool) (word : String) : UsageError :=
  if separated ∧ ((CommandName.ofText? word).isSome ∨ word = helpWord) then .unknownArgument
  else .unknownCommand

/-- Reads the arguments of a command, given what was read before its name. -/
def readCommand (before : Reading) (name : CommandName) (arguments : List String) :
    Except UsageError CommandLine := do
  let reading ← Reading.ofArguments name.accepted arguments
  return { verbose := before.has .verbose || reading.has .verbose, command := reading.command name }

/-- Reads arguments up to the name of a command, and then those of the command. -/
def readFrom (before : Reading) : List String → Except UsageError CommandLine
  | [] => .error (if before.given.isEmpty then .nothingAsked else .missingCommand)
  | argument :: arguments =>
    if before.separated then .error (misplaced true argument)
    else if argument = helpWord then .error (helpOn arguments)
    else
      match CommandName.ofText? argument with
      | some name => readCommand before name arguments
      | none =>
        match ArgumentShape.ofArgument argument.toList with
        | .word => .error (misplaced false argument)
        | _ => do readFrom (← before.take general argument) arguments

/-- Reads a command line, which does not hold the name of the program. -/
def parse (arguments : List String) : Except UsageError CommandLine := readFrom {} arguments

end CommandLine

end SelfIsolation
