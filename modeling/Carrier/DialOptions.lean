import Carrier.Header.Basic
import Carrier.SetupError
import Carrier.Url.Parse

/-!
# The options of a session

- `DialOptions`: the origin, the headers of the upgrade request, the host presented, and the
  terms of TLS where they differ from the usual ones.
- `DialOptions.webSocketUrl`: the origin as the URL that is dialed.
- `DialOptions.validate`: whether there is such a URL.
- `DialOptions.serverName`: the name that the server is asked to prove.

These are the program's `StartOptions` and `TlsClientConfig`, with `websocket_url`, `validate` and
`server_name`.
-/

namespace Carrier

/-- Terms of TLS for a server that is not addressed by its own name. -/
structure TlsOverride where
  /-- The name presented to the server. -/
  serverName : String
  /-- Whether any certificate is accepted. -/
  skipVerify : Bool
  deriving DecidableEq, Repr

/-- What every carrier of a session shares. -/
structure DialOptions where
  /-- The origin that the upgrade request goes to. -/
  origin : String
  /-- The headers of the upgrade request. -/
  headers : HeaderMap := HeaderMap.empty
  /-- The host presented to the origin, when it is not the one dialed. -/
  host : Option String := none
  /-- Terms of TLS; without them the certificate is checked against the dialed host. -/
  tls : Option TlsOverride := none
  deriving DecidableEq, Repr

/-- The scheme that carries a WebSocket for the scheme of an origin. -/
def webSocketScheme? (scheme : String) : Option String :=
  if scheme = "https" ∨ scheme = "wss" then some "wss"
  else if scheme = "http" ∨ scheme = "ws" then some "ws"
  else none

/-- The URL with another scheme, where both are special or both are not and a special scheme has
a host. A port that the new scheme implies is no longer written. -/
def Url.withScheme? (u : Url) (scheme : String) : Option Url :=
  if (SchemeKind.of scheme).isSpecial = (SchemeKind.of u.scheme).isSpecial ∧
      (u.hostText?.isSome ∨ ¬ (SchemeKind.of scheme).isSpecial) then
    some
      { u with
        scheme := scheme
        authority := u.authority.map fun a =>
          { a with port := if a.port = defaultPort? scheme then none else a.port } }
  else none

namespace DialOptions

/-- The URL that is dialed: the origin with the scheme of a WebSocket. -/
def webSocketUrl (o : DialOptions) : Except SetupError Url :=
  if Text.isBlankText o.origin then .error .missingDestination
  else
    match Url.parse o.origin with
    | .error fault => .error (.invalidOrigin o.origin fault.message)
    | .ok u =>
      match webSocketScheme? u.scheme with
      | none => .error (.unsupportedScheme o.origin u.scheme)
      | some scheme =>
        match u.withScheme? scheme with
        | none => .error (.invalidOrigin o.origin ("cannot switch scheme to " ++ scheme))
        | some u =>
          if u.hostText?.isNone then .error (.invalidOrigin o.origin "missing host") else .ok u

/-- Whether the options can be dialed. -/
def validate (o : DialOptions) : Except SetupError Unit :=
  o.webSocketUrl.map fun _ => ()

/-- A host without the brackets of an IPv6 address. -/
def unbracketed (host : String) : String :=
  String.ofList (Text.dropEndWhile (· == ']') (host.toList.dropWhile (· == '[')))

/-- The name that the server is asked to prove. -/
def serverName (o : DialOptions) : Except SetupError String :=
  match o.tls with
  | some tls => .ok tls.serverName
  | none => o.webSocketUrl.map fun u => unbracketed (u.hostText?.getD "")

end DialOptions

/-- The host of a URL as it is dialed. -/
def Url.dialHost (u : Url) : String :=
  match u.authority with
  | some a => a.host.dialed
  | none => ""

end Carrier
