import Carrier.CommandLine.Fault
import Carrier.Config.Basic
import Carrier.LogFilter
import Carrier.Report
import Carrier.TunnelError

/-!
# How the program ends

- `ProgramFault`: why the program ends without success.
- `ProgramFault.chain`: the wordings of a fault and of those below it.
- `ProgramExit`: the exit code and what is reported with it.
- `ProgramFault.exit`: the exit that a fault leads to.

These are the errors that reach the end of the program's `main`, with the contexts that it gives
them, and the hints of `explain`.
-/

namespace Carrier

/-- Why the program ends without success. -/
inductive ProgramFault where
  /-- The command line is not carried out. -/
  | usage (fault : UsageFault)
  /-- There is no filter for the log. -/
  | logFilter (fault : LogFilterFault)
  /-- The place to connect to instead is none. -/
  | connectTo (cause : SetupError)
  /-- The listener is no address. -/
  | listener (cause : SetupError)
  /-- The configuration cannot be used. -/
  | config (fault : ConfigFault)
  /-- A listener cannot begin. -/
  | listen (address : String) (cause : TunnelError)
  /-- The tunnel of the standard streams failed. -/
  | tunnel (cause : TunnelError)
  deriving DecidableEq, Repr

/-- The exit code and what is reported with it. -/
structure ProgramExit where
  /-- The code. -/
  code : Nat
  /-- What is reported. -/
  report : String := ""
  deriving DecidableEq, Repr

namespace ProgramFault

/-- What the program is for. -/
def purpose : String :=
  "Carry TCP streams (SSH and friends) over authenticated WebSocket connections"

/-- The report of a command line that is not carried out: its first line. Help and the version are
shown where they are asked for, and nothing is reported. -/
def usageReport : UsageFault → String
  | .helpAsked | .versionAsked => ""
  | .nothingGiven => purpose ++ "\n"
  | fault => fault.message?.getD "" ++ "\n"

/-- The wordings of a fault and of those below it, outermost first. -/
def chain : ProgramFault → List String
  | .usage fault => fault.message?.toList
  | .logFilter fault => "Failed to initialize logging filter" :: fault.chain
  | .connectTo cause => ["Invalid --connect-to", cause.message]
  | .listener cause => [cause.message]
  | .config fault => fault.chain
  | .listen address cause => ("Failed to start listener on " ++ address) :: cause.chain
  | .tunnel cause => "Failed to tunnel standard input/output" :: cause.explained

/-- The exit that a fault leads to. -/
def exit : ProgramFault → ProgramExit
  | .usage fault => ⟨fault.exitCode, usageReport fault⟩
  | fault => ⟨1, Report.write fault.chain⟩

end ProgramFault

/-- The exit of a program that has done what was asked. -/
def ProgramExit.success : ProgramExit := ⟨0, ""⟩

end Carrier
