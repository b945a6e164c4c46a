import Carrier.DialError
import Carrier.DialOptions
import Carrier.Upgrade.Target

/-!
# The upgrade request

- `UpgradeRequest.build`: the request for a URL. The headers that every upgrade needs come first,
  then those of the options; a host to present takes the place of all hosts.
- `UpgradeRequest.sent?`: the headers as they are sent. Of the names that an upgrade needs only the
  first value is sent.

This is the program's `build_upgrade_request` over the request that `tungstenite` makes of a URL.
-/

namespace Carrier

namespace HeaderName

/-- Who is asked. -/
def host : HeaderName := ⟨"host", by decide +kernel⟩

/-- What becomes of the connection. -/
def connection : HeaderName := ⟨"connection", by decide +kernel⟩

/-- The protocol that is changed to. -/
def upgrade : HeaderName := ⟨"upgrade", by decide +kernel⟩

/-- The version of the WebSocket protocol. -/
def webSocketVersion : HeaderName := ⟨"sec-websocket-version", by decide +kernel⟩

/-- The challenge that the answer must meet. -/
def webSocketKey : HeaderName := ⟨"sec-websocket-key", by decide +kernel⟩

/-- The names that every upgrade needs. -/
def mandatory : List HeaderName := [host, connection, upgrade, webSocketVersion, webSocketKey]

end HeaderName

/-- A request to upgrade a connection. -/
structure UpgradeRequest where
  /-- What is asked for. -/
  target : RequestTarget
  /-- The headers. -/
  headers : HeaderMap
  deriving DecidableEq, Repr

namespace UpgradeRequest

/-- A header value that is known to be one. -/
def known (text : String) (valid : isHeaderValue text = true) : HeaderValue := ⟨text, false, valid⟩

/-- The headers that every upgrade needs. -/
def standardHeaders (host key : HeaderValue) : HeaderMap :=
  ⟨[(.host, host), (.connection, known "Upgrade" (by decide +kernel)),
    (.upgrade, known "websocket" (by decide +kernel)),
    (.webSocketVersion, known "13" (by decide +kernel)), (.webSocketKey, key)]⟩

/-- The headers after the host to present has been set. -/
def presentHost (headers : HeaderMap) (host : Option String) : Except DialError HeaderMap :=
  match host with
  | none => .ok headers
  | some host =>
    if host.isEmpty then .ok headers
    else
      match HeaderValue.parse? host with
      | some value => .ok (headers.replace .host value)
      | none => .error (.handshake "Invalid host override: failed to parse header value")

/-- The request for a URL, with a key that nobody can guess. -/
def build (url : Url) (options : DialOptions) (key : HeaderValue) :
    Except DialError UpgradeRequest := do
  let target ←
    match RequestTarget.parse url.href with
    | .ok target => pure target
    | .error fault =>
      throw (.handshake ("Invalid upgrade request: HTTP format error: " ++ fault.message))
  match HeaderValue.parse? target.hostText with
  | none => throw (.handshake "Invalid upgrade request: HTTP format error: failed to parse header value")
  | some host =>
    if host.text.isEmpty then
      throw (.handshake "Invalid upgrade request: URL error: Empty host name")
    let headers ← presentHost ((standardHeaders host key).appendAll options.headers) options.host
    pure ⟨target, headers⟩

/-- The headers as they are sent: the first value of each mandatory name, then all values of the
other names; `none` if a value cannot be sent.

The values of one name are in the order in which they are sent. The order among different names is
not modelled: a header map on the wire groups its values by name, and fills the place of a name that
it removes with the last one. -/
def sent? (r : UpgradeRequest) : Option (List (HeaderName × HeaderValue)) :=
  let first := HeaderName.mandatory.flatMap fun name =>
    ((r.headers.valuesOf name).take 1).map (name, ·)
  let others := r.headers.entries.filter fun e => !HeaderName.mandatory.contains e.1
  let all := first ++ others
  if all.all (·.2.isVisible) then some all else none

end UpgradeRequest

end Carrier
