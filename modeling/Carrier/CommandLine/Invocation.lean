import Carrier.CommandLine.Scan

/-!
# The commands of the program

- `SshArguments`, `Invocation`: what a command line asks for.
- `Invocation.parse`: the invocation that arguments and environment stand for.

What is wrong with the arguments of a command is reported before what is wrong with those in front
of it. A level for the log that follows the name of the command counts more than one in front of
it, and both count more than the environment.

`Invocation.program`, `Invocation.ssh` and `Invocation.forward` are the program's `Cli` and the two
`Commands`.
-/

namespace Carrier

/-- What a single tunnel or listener is to be like. -/
structure SshArguments where
  /-- The hostname of the origin. -/
  hostname : String
  /-- Custom headers, written `name: value`. -/
  headers : List String := []
  /-- The identity of the service token. -/
  tokenId : Option String := none
  /-- The secret of the service token. -/
  tokenSecret : Option String := none
  /-- The target behind the access front end. -/
  destination : Option String := none
  /-- Where to connect instead. -/
  connectTo : Option String := none
  /-- The local address to listen on; without one the standard streams are carried. -/
  url : Option String := none
  /-- How many seconds a connection may last. -/
  timeoutSeconds : Option Nat := none
  deriving DecidableEq, Repr

/-- What the program is to do. -/
inductive ProgramCommand where
  /-- Carry one stream, or what a listener accepts, to one origin. -/
  | ssh (arguments : SshArguments)
  /-- Carry what the listeners of a configuration file accept. -/
  | forward (config : String)
  deriving DecidableEq, Repr

/-- What a command line asks for. -/
structure Invocation where
  /-- The level of the log. -/
  logLevel : String
  /-- What is to be done. -/
  command : ProgramCommand
  deriving DecidableEq, Repr

namespace Invocation

/-- The level of the log. -/
def logLevelOption : CommandOption where
  name := "log-level"
  valueName := "LOG_LEVEL"
  envName := some "WSCARRIER_LOG_LEVEL"

/-- The options in front of a command. -/
def program : CommandSpec where
  options := [logLevelOption]
  commands := ["ssh", "forward", "help"]
  versioned := true

/-- The options of a single tunnel or listener. -/
def ssh : CommandSpec where
  options :=
    [ { name := "hostname", valueName := "HOSTNAME", required := true,
        envName := some "WSCARRIER_HOSTNAME" },
      { name := "header", valueName := "KEY: VALUE", repeatable := true },
      { name := "service-token-id", valueName := "SERVICE_TOKEN_ID",
        envName := some "WSCARRIER_SERVICE_TOKEN_ID" },
      { name := "service-token-secret", valueName := "SERVICE_TOKEN_SECRET",
        envName := some "WSCARRIER_SERVICE_TOKEN_SECRET" },
      { name := "destination", valueName := "DESTINATION",
        envName := some "WSCARRIER_DESTINATION" },
      { name := "connect-to", valueName := "CONNECT_TO",
        envName := some "WSCARRIER_CONNECT_TO" },
      { name := "url", valueName := "URL", envName := some "WSCARRIER_URL" },
      { name := "connection-timeout", valueName := "CONNECTION_TIMEOUT", kind := .seconds,
        envName := some "WSCARRIER_CONNECTION_TIMEOUT" },
      logLevelOption ]

/-- The options of the listeners of a configuration file. -/
def forward : CommandSpec where
  options :=
    [ { name := "config", letter := some 'c', valueName := "CONFIG", kind := .path,
        required := true, envName := some "WSCARRIER_CONFIG" },
      logLevelOption ]

/-- The answer to a request for help on a command, named by the words after `help`. -/
def help : List String → UsageFault
  | [] => .helpAsked
  | word :: rest =>
    if word ∈ program.commands then
      match rest with
      | [] => .helpAsked
      | word :: _ => .unknownCommand word
    else .unknownCommand word

/-- The fault of a command line without a command. -/
def withoutCommand (vs : OptionValues) : UsageFault :=
  if vs.isEmpty then .nothingGiven else .noCommand

/-- Arguments of a single tunnel or listener from the values of its options. -/
def sshArguments (vs : OptionValues) : SshArguments where
  hostname := (vs.get? "hostname").getD ""
  headers := vs.all "header"
  tokenId := vs.get? "service-token-id"
  tokenSecret := vs.get? "service-token-secret"
  destination := vs.get? "destination"
  connectTo := vs.get? "connect-to"
  url := vs.get? "url"
  timeoutSeconds :=
    (vs.get? "connection-timeout").bind fun s => (Text.readBounded (Nat.pow 2 64) s.toList).toOption

/-- The values of a command's options, and whether the level of the log is on the command line. -/
def below (c : CommandSpec) (env : Environment) (arguments : List String) :
    Except UsageFault (OptionValues × Bool) := do
  let (s, _) ← c.scan {} arguments
  let given ← s.settle
  let vs ← c.complete env s
  c.require vs
  pure (vs, (given.values.get? "log-level").isSome)

/-- The invocation that arguments and environment stand for. -/
def parse (env : Environment) (arguments : List String) : Except UsageFault Invocation := do
  let (s, descent) ← program.scan {} arguments
  match descent with
  | none => throw (withoutCommand (← program.complete env s))
  | some (name, rest) =>
    if name = "help" then throw (help rest)
    let spec := if name = "ssh" then ssh else forward
    let (values, levelled) ← below spec env rest
    let above ← program.complete env s
    let logLevel := if levelled then values.get? "log-level" else above.get? "log-level"
    let command :=
      if name = "ssh" then .ssh (sshArguments values)
      else .forward ((values.get? "config").getD "")
    pure ⟨logLevel.getD "info", command⟩

end Invocation

end Carrier
