import Carrier.Text.Decimal

/-!
# Faults of a command line

- `CommandOption`: an option of a command, and how it is shown.
- `UsageFault`: why a command line is not carried out. Two of them ask for help or the version.
- `UsageFault.message`, `UsageFault.exitCode`: how each is reported.

The texts are those of the parser `clap`, from which the program derives `Cli` and `Commands`.
-/

namespace Carrier

/-- What the values of an option are. -/
inductive OptionKind where
  /-- Any text. -/
  | text
  /-- The path of a file, which is never empty. -/
  | path
  /-- A number of seconds below `2 ^ 64`. -/
  | seconds
  deriving DecidableEq, Repr

/-- An option of a command. -/
structure CommandOption where
  /-- Its name, written after two hyphens. -/
  name : String
  /-- A letter that may stand for it, written after one hyphen. -/
  letter : Option Char := none
  /-- What its value is called. -/
  valueName : String
  /-- What its values are. -/
  kind : OptionKind := .text
  /-- Whether it may be given more than once. -/
  repeatable : Bool := false
  /-- Whether it must be given. -/
  required : Bool := false
  /-- The environment variable that gives the value where the command line does not. -/
  envName : Option String := none
  deriving DecidableEq, Repr

/-- How an option is shown. -/
def CommandOption.shown (o : CommandOption) : String :=
  "--" ++ o.name ++ " <" ++ o.valueName ++ ">"

/-- Why a command line is not carried out. -/
inductive UsageFault where
  /-- Help is asked for. -/
  | helpAsked
  /-- The version is asked for. -/
  | versionAsked
  /-- There is nothing on the command line. -/
  | nothingGiven
  /-- There is no command. -/
  | noCommand
  /-- A word is no command. -/
  | unknownCommand (word : String)
  /-- A word is no option, and there is no other use for it. -/
  | unknownArgument (word : String)
  /-- An option that must be given is not. -/
  | missingRequired
  /-- An option has no value. -/
  | noValue (option : CommandOption)
  /-- An option is given more than once. -/
  | repeated (option : CommandOption)
  /-- The value of an option is no number. -/
  | invalidValue (value : String) (option : CommandOption) (fault : Text.NumberFault)
  /-- An option that has no value is given one. -/
  | unneededValue (value name : String)
  deriving DecidableEq, Repr

namespace UsageFault

/-- The name of the program. -/
def programName : String := "wscarrier"

/-- The first line of the report; there is none where help or the version is shown. -/
def message? : UsageFault → Option String
  | .helpAsked | .versionAsked | .nothingGiven => none
  | .noCommand =>
    some ("error: '" ++ programName ++ "' requires a subcommand but one was not provided")
  | .unknownCommand word => some ("error: unrecognized subcommand '" ++ word ++ "'")
  | .unknownArgument word => some ("error: unexpected argument '" ++ word ++ "' found")
  | .missingRequired =>
    some "error: the following required arguments were not provided:"
  | .noValue option =>
    some ("error: a value is required for '" ++ option.shown ++ "' but none was supplied")
  | .repeated option =>
    some ("error: the argument '" ++ option.shown ++ "' cannot be used multiple times")
  | .invalidValue value option fault =>
    some ("error: invalid value '" ++ value ++ "' for '" ++ option.shown ++ "': " ++ fault.message)
  | .unneededValue value name =>
    some ("error: unexpected value '" ++ value ++ "' for '--" ++ name ++
      "' found; no more were expected")

/-- The exit code of the program. -/
def exitCode : UsageFault → Nat
  | .helpAsked | .versionAsked => 0
  | _ => 2

end UsageFault

end Carrier
