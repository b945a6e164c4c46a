import Carrier.Duration
import Carrier.IoFault
import Carrier.SetupError
import Carrier.Text.Search

/-!
# Why dialing failed

- `DialError`: one cause for each stage of dialing.
- `DialError.message`, `DialError.chain`: its wording, and that of the faults below it.
- `DialError.retryable`: whether another attempt may succeed.
- `DialError.isLoginRedirect`: whether the front end asked for a login.

This is the program's `TransportError`, with `is_retryable`, `is_access_login_redirect` and
`rejection_message`.
-/

namespace Carrier

/-- Why dialing failed. -/
inductive DialError where
  /-- The options cannot be dialed. -/
  | setup (cause : SetupError)
  /-- The address did not take the connection. -/
  | connect (address : String) (fault : IoFault)
  /-- The time allowed was over before the WebSocket was there. -/
  | timeout (address : String) (limit : Duration)
  /-- TLS could not be agreed on. -/
  | tls (reason : String)
  /-- The answer to the upgrade request was no upgrade. -/
  | rejected (status : Nat) (location : Option String)
  /-- The upgrade failed in another way. -/
  | handshake (reason : String)
  deriving DecidableEq, Repr

namespace DialError

/-- The path of the page that asks for a login. -/
def loginPath : String := "cdn-cgi/access/login"

/-- Whether a redirect leads to the page that asks for a login. -/
def isLogin (location : String) : Bool := Text.contains loginPath location

/-- The wording of an answer that was no upgrade. -/
def rejection (status : Nat) : Option String → String
  | some location =>
    if isLogin location then
      "WebSocket upgrade redirected to access login (" ++ location ++
        "): a service token or login is required"
    else
      "WebSocket upgrade rejected with status " ++ toString status ++ " (location: " ++ location ++
        ")"
  | none => "WebSocket upgrade rejected with status " ++ toString status

/-- The wording of a dial error. -/
def message : DialError → String
  | .setup cause => "configuration error: " ++ cause.message
  | .connect address fault => "failed to connect to " ++ address ++ ": " ++ fault.message
  | .timeout address limit => "connection to " ++ address ++ " timed out after " ++ limit.shown
  | .tls reason => "TLS error: " ++ reason
  | .rejected status location => rejection status location
  | .handshake reason => "WebSocket handshake failed: " ++ reason

/-- The wordings of a dial error and the faults below it, outermost first. -/
def chain (e : DialError) : List String :=
  e.message ::
    match e with
    | .setup cause => [cause.message]
    | .connect _ fault => [fault.message]
    | _ => []

/-- Whether another attempt may succeed. -/
def retryable : DialError → Bool
  | .connect .. => true
  | .timeout .. => true
  | .handshake _ => true
  | .rejected status _ => 500 ≤ status
  | .setup cause => cause.retryable
  | .tls _ => false

/-- Whether the upgrade was redirected to the page that asks for a login. -/
def isLoginRedirect : DialError → Bool
  | .rejected _ (some location) => isLogin location
  | _ => false

/-- Whether the options are at fault. -/
def isSetup : DialError → Bool
  | .setup _ => true
  | _ => false

end DialError

end Carrier
