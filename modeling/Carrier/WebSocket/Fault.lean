import Carrier.IoFault

/-!
# Faults of a WebSocket

- `ProtocolFault`: what the other end did against the protocol.
- `SocketFault`: why reading or writing a WebSocket failed.
- `SocketFault.message`, `SocketFault.causes`: its wording, and that of the faults below it.

These are the errors of `tungstenite`.
-/

namespace Carrier

/-- The two kinds of data messages. -/
inductive DataKind where
  | text
  | binary
  deriving DecidableEq, Repr

/-- What the other end did against the protocol. -/
inductive ProtocolFault where
  /-- A frame uses bits that have no meaning. -/
  | reservedBits
  /-- A frame from the server is masked. -/
  | maskedFrame
  /-- A control frame is not final. -/
  | fragmentedControl
  /-- The payload of a control frame is too long. -/
  | controlTooLong
  /-- There is no such kind of frame. -/
  | invalidOpcode (code : Nat)
  /-- A frame goes on with a message that has not begun. -/
  | nothingToContinue
  /-- A message begins before the last one is complete. -/
  | unfinished (kind : DataKind)
  /-- The payload of a close frame has one octet. -/
  | invalidClose
  /-- The transport ended without a close frame. -/
  | resetWithoutClose
  /-- A frame follows a close frame. -/
  | sentAfterClose
  deriving DecidableEq, Repr

/-- The name of a kind in messages. -/
def DataKind.name : DataKind → String
  | .text => "TEXT"
  | .binary => "BINARY"

/-- The wording of a protocol fault. -/
def ProtocolFault.message : ProtocolFault → String
  | .reservedBits => "Reserved bits are non-zero"
  | .maskedFrame => "Received a masked frame from server"
  | .fragmentedControl => "Fragmented control frame"
  | .controlTooLong => "Control frame too big (payload must be 125 bytes or less)"
  | .invalidOpcode code => "Encountered invalid opcode: " ++ toString code
  | .nothingToContinue => "Continue frame but nothing to continue"
  | .unfinished kind => "While waiting for more fragments received: " ++ kind.name
  | .invalidClose => "Invalid close sequence"
  | .resetWithoutClose => "Connection reset without closing handshake"
  | .sentAfterClose => "Remote sent after having closed"

/-- Why reading or writing a WebSocket failed. -/
inductive SocketFault where
  /-- The WebSocket was closed by a complete handshake. -/
  | closed
  /-- The WebSocket had been closed before. -/
  | alreadyClosed
  /-- A text is not well-formed. -/
  | invalidText
  /-- The transport failed. -/
  | io (fault : IoFault)
  /-- The other end broke the protocol. -/
  | protocol (fault : ProtocolFault)
  /-- A frame or message is longer than the limit. -/
  | tooLong (size limit : Nat)
  deriving DecidableEq, Repr

namespace SocketFault

/-- The wording of a length over the limit. -/
def excess (size limit : Nat) : String :=
  "Message too long: " ++ toString size ++ " > " ++ toString limit

/-- The wording of a fault. -/
def message : SocketFault → String
  | .closed => "Connection closed normally"
  | .alreadyClosed => "Trying to work with closed connection"
  | .invalidText => "UTF-8 encoding error"
  | .io fault => "IO error: " ++ fault.message
  | .protocol fault => "WebSocket protocol error: " ++ fault.message
  | .tooLong size limit => "Space limit exceeded: " ++ excess size limit

/-- The wordings of the faults below one, outermost first. -/
def causes : SocketFault → List String
  | .io fault => [fault.message]
  | .protocol fault => [fault.message]
  | .tooLong size limit => [excess size limit]
  | _ => []

end SocketFault

end Carrier
