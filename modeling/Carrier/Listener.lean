import Carrier.Origin
import Carrier.SetupError
import Carrier.Url.Parse

/-!
# Listener addresses

A listener is named by a URL, or by the host and port alone. `listenerAddress` is the host and
port to bind. A scheme may imply the port.

This is the program's `listener_address`.
-/

namespace Carrier

/-- Host and port of a listener. -/
def listenerAddress (raw : String) : Except SetupError String :=
  let invalid (reason : String) := SetupError.invalidListener raw reason
  let text := Text.trim raw
  if text.isEmpty then .error (invalid "empty address")
  else
    let url := if Text.contains "://" text then text else "tcp://" ++ text
    match Url.parse url with
    | .error fault => .error (invalid fault.message)
    | .ok u =>
      match u.hostText?, u.effectivePort? with
      | none, _ => .error (invalid "missing host")
      | some _, none => .error (invalid "missing port")
      | some host, some port => .ok (host ++ ":" ++ toString port)

end Carrier
