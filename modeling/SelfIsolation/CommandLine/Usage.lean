import SelfIsolation.CommandLine.Basic

/-! # Usage

What is said of a command line that is not carried out, and the text of the help.
-/

namespace SelfIsolation

namespace UsageError

/-- What is said of a command line. -/
def message : UsageError → String
  | .unknownArgument => "unexpected argument"
  | .unknownCommand => "unrecognized command"
  | .missingArgument => "a required argument is missing"
  | .conflict => "an option cannot be used twice, or together with another one"
  | .invalidValue => "invalid value for an option"
  | .missingValue => "a value is required for an option"
  | .surplusValue => "an option takes no value"
  | .help => "help"
  | .version => "version"
  | .nothingAsked => "no command given"
  | .missingCommand => "a command is required"

instance : ToString UsageError := ⟨message⟩

end UsageError

namespace CommandLine

/-- The version of the program. -/
def version : String := "0.1.0"

/-- The commands with what they are given and what they do. -/
def commandHelp : List (String × String) := [
  ("check", "Check isolation requirements and show the current privilege state"),
  ("addr <TEXT>", "Parse an address and print its canonical form"),
  ("cidr <TEXT>", "Parse an address with prefix length"),
  ("match <A> <B>", "Check whether two addresses match (\"*\" is the wildcard)"),
  ("seccomp [-m MODE]", "List the runtime syscall allow-list of a mode"),
  ("isolate [OPTIONS]", "Run the isolation stages on this process")]

/-- The options with what they are given and what they do. -/
def optionHelp : List (String × String) := [
  ("-c, --config <FILE>", "JSON configuration file, flags override it"),
  ("-m, --mode <MODE>", "passt, pasta or vhost-user"),
  ("--uid <UID>", "Target UID"),
  ("--gid <GID>", "Target GID"),
  ("--userns <PATH>", "Join this user namespace"),
  ("--use-userns", "Create a user namespace (default unless --netns-only)"),
  ("--no-userns", "Stay in the current user namespace"),
  ("--netns-only", "pasta only: no user namespace of our own"),
  ("-f, --foreground", "Don't fork before the last stage"),
  ("--scratch <PATH>", "Directory to mount the empty root over"),
  ("-F, --fd <FD>", "Descriptor to keep open"),
  ("--dry-run", "Run against a simulated kernel and print every call"),
  ("-v, --verbose", "Show verbose output"),
  ("-h, --help", "Print help"),
  ("-V, --version", "Print version")]

/-- One line of the help: a column for what is given, and one for what it does. -/
def helpLine (entry : String × String) : String :=
  "  " ++ String.ofList (entry.1.toList.rightpad 21 ' ') ++ entry.2

/-- The help. -/
def help : String :=
  "\n".intercalate
    (["Inspect and drive the self-isolation of a network bridging daemon", "", "Commands:"] ++
      commandHelp.map helpLine ++ ["", "Options:"] ++ optionHelp.map helpLine)

end CommandLine

end SelfIsolation
