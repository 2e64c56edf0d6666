import SelfIsolation.CommandLine.Option

/-! # Reading arguments

The arguments of one command are read from left to right. An option that takes a
value has it attached, or takes the next argument that does not look like an option.
A value is read when the next argument is understood, or at the end; so of two
faults the earlier one counts, except that an argument which is not understood at
all counts before a value that is still unread.
-/

namespace SelfIsolation

/-- What a command can be given. -/
structure Accepted where
  options : List CommandOption
  operands : Nat
  deriving DecidableEq

namespace Accepted

/-- The option of a long name. -/
def byLongName? (accepted : Accepted) (name : List Char) : Option CommandOption :=
  accepted.options.find? fun option => option.longName.toList = name

/-- The option of a short name. -/
def byShortName? (accepted : Accepted) (name : Char) : Option CommandOption :=
  accepted.options.find? fun option => option.shortName? = some name

end Accepted

/-- What an argument looks like. -/
inductive ArgumentShape where
  /-- The argument `--`, after which no argument is an option. -/
  | separator
  /-- A long name, with the value attached by `=`, if there is one. -/
  | long (name : List Char) (value : Option (List Char))
  /-- A dash and short names, the last of which may have its value attached. -/
  | short (names : List Char)
  /-- Anything else, a single dash included. -/
  | word
  deriving DecidableEq

namespace ArgumentShape

/-- The shape of an argument. -/
def ofArgument (argument : List Char) : ArgumentShape :=
  match argument with
  | ['-', '-'] => .separator
  | '-' :: '-' :: text =>
    match text.dropWhile (· != '=') with
    | [] => .long text none
    | _ :: value => .long (text.takeWhile (· != '=')) (some value)
  | ['-'] => .word
  | '-' :: names => .short names
  | _ => .word

end ArgumentShape

/-- What was read so far. -/
structure Reading where
  given : List (CommandOption × OptionValue) := []
  /-- The option whose value is still unread, with the value if it has come. -/
  pending : Option (CommandOption × Option String) := none
  operands : List String := []
  /-- No further argument is an option. -/
  separated : Bool := false
  deriving DecidableEq

namespace Reading

/-- Holds of the options that were given. -/
def has (reading : Reading) (option : CommandOption) : Bool :=
  reading.given.any fun entry => entry.1 = option

/-- The value of an option that was given. -/
def value? (reading : Reading) (option : CommandOption) : Option OptionValue :=
  reading.given.lookup option

/-- Adds an option, which may not be there yet, with the value read from a text. -/
def add (option : CommandOption) (value : Except UsageError OptionValue) (reading : Reading) :
    Except UsageError Reading :=
  if reading.has option then .error .conflict
  else value.map fun value => { reading with given := reading.given ++ [(option, value)] }

/-- Reads the value that is still unread. -/
def settle (reading : Reading) : Except UsageError Reading :=
  match reading.pending with
  | none => .ok reading
  | some (_, none) => .error .missingValue
  | some (option, some text) => { reading with pending := none }.add option (option.read text)

/-- Takes an option that has no value. Help and the version are shown at once. -/
def takeFlag (option : CommandOption) (reading : Reading) : Except UsageError Reading := do
  let reading ← reading.settle
  match option with
  | .help => .error .help
  | .version => .error .version
  | option => reading.add option (.ok .given)

/-- Takes an option that has a value, which may be attached or still to come. -/
def takeValued (option : CommandOption) (attached : Option String) (reading : Reading) :
    Except UsageError Reading := do
  let reading ← reading.settle
  match attached with
  | some text => reading.add option (option.read text)
  | none => return { reading with pending := some (option, none) }

/-- Takes an option by its long name. -/
def takeLong (accepted : Accepted) (name : List Char) (value : Option (List Char))
    (reading : Reading) : Except UsageError Reading :=
  match accepted.byLongName? name with
  | none => .error .unknownArgument
  | some option =>
    if option.takesValue then reading.takeValued option (value.map String.ofList)
    else if value.isSome then .error .surplusValue
    else reading.takeFlag option

/-- The value attached to a short name, if there is one; an equals sign before it is left out. -/
def attachedValue : List Char → Option String
  | [] => none
  | '=' :: value => some (String.ofList value)
  | value => some (String.ofList value)

/-- Takes options by their short names. -/
def takeShort (accepted : Accepted) : List Char → Reading → Except UsageError Reading
  | [], reading => .ok reading
  | name :: names, reading =>
    match accepted.byShortName? name with
    | none => .error .unknownArgument
    | some option =>
      if option.takesValue then reading.takeValued option (attachedValue names)
      else do takeShort accepted names (← reading.takeFlag option)

/-- Takes an argument that is no option. -/
def takeOperand (accepted : Accepted) (argument : String) (reading : Reading) :
    Except UsageError Reading :=
  if reading.operands.length < accepted.operands then do
    let reading ← reading.settle
    return { reading with operands := reading.operands ++ [argument] }
  else .error .unknownArgument

/-- Takes an argument that may be the value of the option before it. -/
def takeWord (accepted : Accepted) (argument : String) (reading : Reading) :
    Except UsageError Reading :=
  match reading.pending with
  | some (option, none) => .ok { reading with pending := some (option, some argument) }
  | _ => reading.takeOperand accepted argument

/-- Takes an argument. -/
def take (accepted : Accepted) (argument : String) (reading : Reading) :
    Except UsageError Reading :=
  if reading.separated then reading.takeOperand accepted argument
  else
    match ArgumentShape.ofArgument argument.toList with
    | .separator => .ok { reading with separated := true }
    | .long name value => reading.takeLong accepted name value
    | .short names => reading.takeShort accepted names
    | .word => reading.takeWord accepted argument

/-- Holds of options that exclude each other. -/
def isContradictory (reading : Reading) : Bool :=
  reading.has .withUserNamespace && reading.has .withoutUserNamespace

/-- Ends the reading, when no value is missing, nothing is contradictory, and no argument is
missing. -/
def finish (accepted : Accepted) (reading : Reading) : Except UsageError Reading := do
  let reading ← reading.settle
  if reading.isContradictory then throw .conflict
  if reading.operands.length < accepted.operands then throw .missingArgument
  return reading

/-- Reads the arguments of a command. -/
def ofArguments (accepted : Accepted) (arguments : List String) : Except UsageError Reading := do
  let start : Reading := {}
  let reading ← arguments.foldlM (fun reading argument => reading.take accepted argument) start
  reading.finish accepted

end Reading

end SelfIsolation
