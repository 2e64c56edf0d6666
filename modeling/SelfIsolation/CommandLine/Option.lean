import SelfIsolation.Mode
import SelfIsolation.Text.Numeral

/-! # Options of the command line

The options by name, with the values that they take, and the ways in which a command
line can be wrong.
-/

namespace SelfIsolation

/-- Why a command line is not carried out as it stands. -/
inductive UsageError where
  | unknownArgument
  | unknownCommand
  | missingArgument
  /-- An option is given twice, or with another that excludes it. -/
  | conflict
  | invalidValue
  /-- A value is missing, or is empty where it may not be. -/
  | missingValue
  | surplusValue
  | help
  | version
  | nothingAsked
  | missingCommand
  deriving DecidableEq

/-- An option. -/
inductive CommandOption where
  | verbose
  | help
  | version
  | config
  | mode
  | uid
  | gid
  | userNamespace
  | withUserNamespace
  | withoutUserNamespace
  | netnsOnly
  | foreground
  | scratch
  | descriptor
  | dryRun
  deriving DecidableEq

/-- The value of an option. -/
inductive OptionValue where
  | given
  | path (path : String)
  | mode (mode : Mode)
  | identity (identity : UInt32)
  | descriptor (descriptor : Int32)
  deriving DecidableEq

namespace CommandOption

/-- The long name of an option, without the dashes. -/
def longName : CommandOption → String
  | .verbose => "verbose"
  | .help => "help"
  | .version => "version"
  | .config => "config"
  | .mode => "mode"
  | .uid => "uid"
  | .gid => "gid"
  | .userNamespace => "userns"
  | .withUserNamespace => "use-userns"
  | .withoutUserNamespace => "no-userns"
  | .netnsOnly => "netns-only"
  | .foreground => "foreground"
  | .scratch => "scratch"
  | .descriptor => "fd"
  | .dryRun => "dry-run"

/-- The short name of an option, without the dash. -/
def shortName? : CommandOption → Option Char
  | .verbose => some 'v'
  | .help => some 'h'
  | .version => some 'V'
  | .config => some 'c'
  | .mode => some 'm'
  | .foreground => some 'f'
  | .descriptor => some 'F'
  | _ => none

/-- Holds of the options that take a value. -/
def takesValue : CommandOption → Bool
  | .config | .mode | .uid | .gid | .userNamespace | .scratch | .descriptor => true
  | _ => false

/-- Reads a path, which may not be empty. -/
def readPath (text : String) : Except UsageError OptionValue :=
  if text.isEmpty then .error .missingValue else .ok (.path text)

/-- Reads a mode, in any case. -/
def readMode (text : String) : Except UsageError OptionValue :=
  match Mode.parse text with
  | .ok found => .ok (.mode found)
  | .error _ => .error .invalidValue

/-- Reads an identity: a number of 32 bits. -/
def readIdentity (text : String) : Except UsageError OptionValue :=
  match Numeral.readSigned? text.toList with
  | some value =>
    if 0 ≤ value ∧ value < UInt32.size then .ok (.identity (UInt32.ofNat value.toNat))
    else .error .invalidValue
  | none => .error .invalidValue

/-- Reads a descriptor: a signed number of 32 bits. -/
def readDescriptor (text : String) : Except UsageError OptionValue :=
  match Numeral.readInt32? text.toList with
  | some found => .ok (.descriptor found)
  | none => .error .invalidValue

/-- Reads the value of an option that takes one. -/
def read (option : CommandOption) (text : String) : Except UsageError OptionValue :=
  match option with
  | .mode => readMode text
  | .uid | .gid => readIdentity text
  | .descriptor => readDescriptor text
  | _ => readPath text

end CommandOption

end SelfIsolation
