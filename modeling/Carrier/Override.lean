import Carrier.DialOptions
import Carrier.Log

/-!
# Connection overrides

An override sends a carrier to another place than its hostname says. It is written with one to
three fields:

    host
    host:port
    name:port:host

The last form presents `name` to the server that is dialed. No certificate of that server can
match the dialed host then, so none is checked, and a warning says so.

- `Override.parse`: the override that a text stands for.
- `Override.written`: the text that an override was written with.
- `Override.origin`, `Override.tls`: what it makes of a session's options.
- `Override.shown`: how it is shown.
- `DialOptions.resolve`: the options after an override, which may be empty.

These are the program's `DestinationOverride` with `parse`, `origin_url`, `tls` and `apply`, and its
`resolve_destination`.
-/

namespace Carrier

/-- Where to dial instead. -/
inductive Override where
  /-- A host, at the port that the scheme implies. -/
  | at (host : String)
  /-- A host and a port. -/
  | atPort (host port : String)
  /-- A host and a port, and the name presented there. -/
  | presenting (name port host : String) (named : name ≠ "")
  deriving DecidableEq, Repr

namespace Override

/-- The override that a text stands for. -/
def parse (raw : String) : Except SetupError Override :=
  if raw.isEmpty then .error (.invalidOverride raw)
  else
    match (Text.fields ':' raw.toList).map String.ofList with
    | [host] => .ok (.at host)
    | [host, port] => .ok (.atPort host port)
    | [name, port, host] =>
      if named : name ≠ "" then .ok (.presenting name port host named)
      else .error (.invalidOverride raw)
    | _ => .error (.invalidOverride raw)

/-- The text that an override was written with. -/
def written : Override → String
  | .at host => host
  | .atPort host port => host ++ ":" ++ port
  | .presenting name port host _ => name ++ ":" ++ port ++ ":" ++ host

/-- The origin that is dialed. -/
def origin : Override → String
  | .at host => "https://" ++ host
  | .atPort host port => "https://" ++ host ++ ":" ++ port
  | .presenting _ port host _ => "https://" ++ host ++ ":" ++ port

/-- The terms of TLS that go with it. -/
def tls : Override → Option TlsOverride
  | .presenting name _ _ _ => some ⟨name, true⟩
  | _ => none

/-- How an override is shown. -/
def shown (o : Override) : String :=
  match o.tls with
  | some tls => o.origin ++ " (sni: " ++ tls.serverName ++ ")"
  | none => o.origin

/-- The warning that certificates are not checked. -/
def warning (serverName origin : String) : LogRecord where
  level := .warn
  message := "Using insecure SSL connection because SNI overridden to " ++ serverName
  fields := [("server_name", serverName), ("origin", origin)]

/-- The options after an override, and what is reported. Terms of TLS that the options had stay
unless the override brings its own. -/
def apply (o : Override) (options : DialOptions) : DialOptions × List LogRecord :=
  match o.tls with
  | some tls =>
    ({ options with origin := o.origin, tls := some tls }, [warning tls.serverName o.origin])
  | none => ({ options with origin := o.origin }, [])

end Override

/-- The options after an override; an empty one changes nothing. -/
def DialOptions.resolve (raw : String) (options : DialOptions) :
    Except SetupError (DialOptions × List LogRecord) :=
  if raw.isEmpty then .ok (options, []) else (Override.parse raw).map (·.apply options)

end Carrier
