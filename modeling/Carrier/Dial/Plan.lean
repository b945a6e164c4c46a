import Carrier.ServerName
import Carrier.Upgrade.Accept
import Carrier.Upgrade.Answer
import Carrier.Upgrade.Request

/-!
# What a dial will do

The options decide where is dialed, what is asked of TLS, and what the request is. Nothing here
depends on the network.

- `DialOptions.address`: host and port that are dialed.
- `DialOptions.looksUp`: whether the host has to be looked up.
- `DialOptions.tlsTerms`: what is asked of TLS, if it is used.
- `DialOptions.request`: the upgrade request, in the form in which it is sent.
- `SentRequest.written`: its text.

In the program this is spread over `connect` of `TungsteniteDialer`, `dial_host` and
`build_upgrade_request`.
-/

namespace Carrier

/-- What is asked of TLS. -/
structure TlsTerms where
  /-- The name that the server has to prove. -/
  serverName : String
  /-- Whether the proof is checked. -/
  verified : Bool
  deriving DecidableEq, Repr

/-- Where a carrier connects to. -/
structure DialAddress where
  /-- A domain or an address without brackets. -/
  host : String
  /-- The port. -/
  port : Nat
  deriving DecidableEq, Repr

/-- Whether a host is a name, for which the system has to be asked before it can be connected to. -/
def Host.isName : Host → Bool
  | .domain _ => true
  | _ => false

/-- How an address is shown. -/
def DialAddress.shown (a : DialAddress) : String := a.host ++ ":" ++ toString a.port

namespace DialOptions

/-- Host and port of a URL. -/
def address (url : Url) : Except DialError DialAddress :=
  match url.effectivePort? with
  | some port => .ok ⟨url.dialHost, port⟩
  | none => .error (.handshake ("no port for " ++ url.href))

/-- Whether the host that is dialed has to be looked up. -/
def looksUp (o : DialOptions) : Bool :=
  match o.webSocketUrl with
  | .ok url => url.authority.any (·.host.isName)
  | .error _ => false

/-- What is asked of TLS; the certificate is checked unless the options say otherwise. -/
def tlsTerms (o : DialOptions) (url : Url) : Except DialError (Option TlsTerms) :=
  if url.scheme ≠ "wss" then .ok none
  else
    match o.serverName with
    | .error cause => .error (.setup cause)
    | .ok name =>
      if ServerName.isName name then
        .ok (some ⟨name, !o.tls.any (·.skipVerify)⟩)
      else .error (.tls "Invalid server name: invalid dns name")

end DialOptions

/-- A request in the form in which it is sent, and what it asks for. -/
structure SentRequest where
  /-- What is asked for. -/
  target : RequestTarget
  /-- The headers, in order. -/
  headers : List (HeaderName × HeaderValue)
  /-- The protocols above that are asked for. -/
  subprotocols : Option (List String)
  /-- The answer that meets the challenge. -/
  accept : String
  deriving DecidableEq, Repr

namespace HeaderName

/-- The protocols above the WebSocket. -/
def subprotocol : HeaderName := ⟨"sec-websocket-protocol", by decide +kernel⟩

end HeaderName

/-- The protocols above that a request asks for. -/
def UpgradeRequest.subprotocols? (r : UpgradeRequest) : Option (List String) :=
  (r.headers.valuesOf .subprotocol).head?.map fun value =>
    (Text.fields ',' value.text.toList).map fun name => Text.trim (String.ofList name)

namespace SentRequest

/-- The first line: path and query of the target. -/
def line (r : SentRequest) : String :=
  "GET " ++ (if r.target.path.isEmpty then "/" else r.target.path) ++
    (match r.target.query with
      | some query => "?" ++ query
      | none => "") ++ " HTTP/1.1"

/-- How the name of a header is written. -/
def writtenName (name : HeaderName) : String :=
  match name.text with
  | "host" => "Host"
  | "connection" => "Connection"
  | "upgrade" => "Upgrade"
  | "origin" => "Origin"
  | "sec-websocket-version" => "Sec-WebSocket-Version"
  | "sec-websocket-key" => "Sec-WebSocket-Key"
  | "sec-websocket-protocol" => "Sec-WebSocket-Protocol"
  | text => text

/-- The lines of the headers. -/
def headerLines (r : SentRequest) : String :=
  String.join (r.headers.map fun (name, value) =>
    writtenName name ++ ": " ++ value.text ++ "\r\n")

/-- The text of a request. -/
def written (r : SentRequest) : String := r.line ++ "\r\n" ++ r.headerLines ++ "\r\n"

end SentRequest

/-- The request for a URL in the form in which it is sent. -/
def DialOptions.request (o : DialOptions) (url : Url) (key : HeaderValue) :
    Except DialError SentRequest := do
  let request ← UpgradeRequest.build url o key
  match request.sent? with
  | none => throw (.handshake UpgradeFault.unsendable.message)
  | some headers =>
    let key := (request.headers.valuesOf .webSocketKey).head?.elim "" (·.text)
    pure ⟨request.target, headers, request.subprotocols?, acceptText key⟩

end Carrier
