import Carrier.CommandLine.Invocation
import Carrier.Config.Read
import Carrier.Dial.Run
import Carrier.Forwarder.Basic
import Carrier.Program.Fault

/-!
# From a command line to what is carried

- `Surroundings`: what the program finds when it begins.
- `Launch`: what it is going to do.
- `SshArguments.options`: the options of a session for the arguments of a command line.
- `Launch.listenAll`: the listeners of a configuration, all of them or none.
- `Launch.understand`: what a command line asks for.
- `Launch.prepare`: what the program is going to do, or why it ends.

Nothing is dialed here: where a listener cannot begin, those in front of it have not accepted
anything.

In the program this is the first part of `main`, of `run_stdio`, of `run_ssh_forwarder` and of
`run_forwarders`.
-/

namespace Carrier

/-- What the program finds when it begins. -/
structure Surroundings where
  /-- The arguments of the command line. -/
  arguments : List String
  /-- The environment variables. -/
  environment : Environment
  /-- What reading a file comes to. -/
  files : String → Except IoFault Bytes
  /-- Hosts and ports. -/
  system : System

/-- What the program is going to do. -/
inductive Launch where
  /-- Carry its standard streams. -/
  | tunnel (options : DialOptions) (deadline : Option Duration)
  /-- Carry what listeners accept. -/
  | listeners (forwarders : List Forwarder)
  deriving DecidableEq, Repr

/-! ### One origin -/

namespace SshArguments

/-- The headers of the session. -/
def accessHeaders (a : SshArguments) : HeaderMap :=
  HeaderMap.forAccess a.headers a.tokenId a.tokenSecret a.destination

/-- The options of the session, and what is reported. -/
def options (a : SshArguments) : Except SetupError (DialOptions × List LogRecord) :=
  DialOptions.resolve (a.connectTo.getD "")
    { origin := ensureScheme a.hostname
      headers := a.accessHeaders
      host := some (presentedHost a.hostname) }

/-- How long a connection may last. -/
def deadline (a : SshArguments) : Option Duration := a.timeoutSeconds.map Duration.seconds

end SshArguments

/-- How long a connection of an entry may last. -/
def ForwarderEntry.deadline (e : ForwarderEntry) : Option Duration :=
  e.timeoutSeconds.map Duration.seconds

namespace Launch

/-- A listener that begins on an address. -/
def listen (system : System) (bound : List SocketAddress) (limits : Limits) (address : String)
    (options : DialOptions) (deadline : Option Duration) : Except ProgramFault Forwarder :=
  match Forwarder.bind system bound address options with
  | .error cause => .error (.listen address cause)
  | .ok f => .ok { f with limits := limits, deadline := deadline }

/-- What is done with the options of a single session. -/
def single (system : System) (limits : Limits) (a : SshArguments) (options : DialOptions) :
    Except ProgramFault Launch :=
  match a.url with
  | none => .ok (.tunnel options a.deadline)
  | some raw =>
    match listenerAddress raw with
    | .error cause => .error (.listener cause)
    | .ok address =>
      (listen system [] limits address options a.deadline).map fun f => .listeners [f]

/-- What is done for a single session, and what is reported. -/
def ofArguments (system : System) (limits : Limits) (a : SshArguments) :
    Except ProgramFault Launch × List LogRecord :=
  match a.options with
  | .error cause => (.error (.connectTo cause), [])
  | .ok (options, records) => (single system limits a options, records)

/-! ### The entries of a configuration -/

/-- The listener of an entry, and what is reported; others have bound addresses. -/
def listenFor (system : System) (environment : Environment) (bound : List SocketAddress)
    (limits : Limits) (e : ForwarderEntry) : Except ProgramFault Forwarder × List LogRecord :=
  match listenerAddress e.listener with
  | .error cause => (.error (.config (.invalidListener cause)), [])
  | .ok address =>
    match e.options environment with
    | .error fault => (.error (.config fault), [])
    | .ok (options, records) => (listen system bound limits address options e.deadline, records)

/-- The listeners of entries from left to right, and what is reported. The first that cannot begin
ends it. -/
def listenAll (system : System) (environment : Environment) (bound : List SocketAddress)
    (limits : Limits) : List ForwarderEntry → Except ProgramFault (List Forwarder) × List LogRecord
  | [] => (.ok [], [])
  | e :: rest =>
    match listenFor system environment bound limits e with
    | (.error fault, records) => (.error fault, records)
    | (.ok f, records) =>
      let (fs, more) := listenAll system environment (f.address :: bound) limits rest
      (fs.map (f :: ·), records ++ more)

/-- The record that all listeners are there. -/
def startRecord (count : Nat) : LogRecord :=
  ⟨.info, "Starting forwarders", [("count", toString count)]⟩

/-- What is done for the configuration in a file, and what is reported. -/
def ofConfig (s : Surroundings) (limits : Limits) (path : String) :
    Except ProgramFault Launch × List LogRecord :=
  match Config.load s.files path with
  | .error fault => (.error (.config fault), [])
  | .ok config =>
    match listenAll s.system s.environment [] limits config.forwarders with
    | (.error fault, records) => (.error fault, records)
    | (.ok fs, records) => (.ok (.listeners fs), records ++ [startRecord fs.length])

/-! ### The command line -/

/-- What is asked for, and the filter of the log. -/
def understand (s : Surroundings) : Except ProgramFault (Invocation × String) := do
  let invocation ← (Invocation.parse s.environment s.arguments).mapError .usage
  let filter ←
    (LogFilter.choose (s.environment LogFilter.envName) invocation.logLevel).mapError .logFilter
  pure (invocation, filter)

/-- The number of the level of the log that is shown. -/
def shownLevel (s : Surroundings) : Nat :=
  match understand s with
  | .ok (_, filter) => LogFilter.shows filter
  | .error _ => 0

/-- The path of the configuration that is asked for. -/
def configPath? (s : Surroundings) : Option String :=
  match understand s with
  | .ok (⟨_, .forward path⟩, _) => some path
  | _ => none

/-- What the program is going to do, or why it ends, and what is reported. -/
def prepare (s : Surroundings) (limits : Limits) : Except ProgramFault Launch × List LogRecord :=
  match understand s with
  | .error fault => (.error fault, [])
  | .ok (invocation, _) =>
    match invocation.command with
    | .ssh a => ofArguments s.system limits a
    | .forward path => ofConfig s limits path

end Launch

end Carrier
