import Carrier.DialError
import Carrier.WebSocket.Fault

/-!
# Why a tunnel failed

- `Direction`: the two ways a relay carries bytes.
- `TunnelError`: the causes that end a tunnel other than well.
- `TunnelError.message`, `TunnelError.chain`: its wording, and that of the faults below it.
- `TunnelError.explained`: the chain as it is reported, with a hint for those that have one.

These are the program's `RelayDirection` and `CarrierError`, with `explain`.
-/

namespace Carrier

/-- A way that a relay carries bytes. -/
inductive Direction where
  /-- From the application to the other end. -/
  | toRemote
  /-- From the other end to the application. -/
  | toLocal
  deriving DecidableEq, Repr

/-- The name of a direction. -/
def Direction.name : Direction → String
  | .toRemote => "local->remote"
  | .toLocal => "remote->local"

/-- Why a tunnel failed. -/
inductive TunnelError where
  /-- The options cannot be dialed. -/
  | setup (cause : SetupError)
  /-- No WebSocket could be had. -/
  | dial (cause : DialError)
  /-- The listener could not be bound. -/
  | bind (address : String) (fault : IoFault)
  /-- The operating system failed. -/
  | io (fault : IoFault)
  /-- The application's side failed during a relay. -/
  | relayIo (direction : Direction) (fault : IoFault)
  /-- The WebSocket failed during a relay. -/
  | relaySocket (direction : Direction) (fault : SocketFault)
  /-- The time allowed for a relay was over. -/
  | deadlineExceeded (limit : Duration)
  /-- It was called off before there was a WebSocket. -/
  | cancelled
  deriving DecidableEq, Repr

namespace TunnelError

/-- The wording of a tunnel error. -/
def message : TunnelError → String
  | .setup cause => cause.message
  | .dial cause => "failed to establish carrier connection: " ++ cause.message
  | .bind address fault => "failed to bind listener on " ++ address ++ ": " ++ fault.message
  | .io fault => "IO error: " ++ fault.message
  | .relayIo direction fault => "relay " ++ direction.name ++ " failed: " ++ fault.message
  | .relaySocket direction fault => "relay " ++ direction.name ++ " failed: " ++ fault.message
  | .deadlineExceeded limit =>
    "carrier connection exceeded its deadline of " ++ limit.shown
  | .cancelled => "cancelled while connecting"

/-- The wordings of a tunnel error and the faults below it, outermost first. -/
def chain (e : TunnelError) : List String :=
  e.message ::
    match e with
    | .dial cause => cause.chain
    | .bind _ fault => [fault.message]
    | .io fault => [fault.message]
    | .relayIo _ fault => [fault.message]
    | .relaySocket _ fault => fault.message :: fault.causes
    | _ => []

/-- Whether another attempt may succeed. -/
def retryable : TunnelError → Bool
  | .dial cause => cause.retryable
  | _ => false

/-- Whether the options are at fault. -/
def isSetup : TunnelError → Bool
  | .setup _ => true
  | .dial cause => cause.isSetup
  | _ => false

/-- The hint to an operator whose tunnel was sent to a login. -/
def loginHint : String :=
  "The origin requires an access token; pass --service-token-id and --service-token-secret"

/-- The chain as it is reported to the operator. -/
def explained (e : TunnelError) : List String :=
  match e with
  | .dial cause => if cause.isLoginRedirect then loginHint :: e.chain else e.chain
  | _ => e.chain

end TunnelError

end Carrier
