import Carrier.Text.Utf8
import Carrier.WebSocket.Frame

/-!
# Messages from a server

- `Limits`: how long frames and messages may be.
- `Message`: a message as the client sees it; a close message brings the reply that is owed.
- `Fragments`: a data message of which some frames are still missing.
- `acceptFrame`: one more frame: the message that it completes, or what is wrong with it.
- `Intake.read`: the same for the frame that the octets from the server begin with.

A text is checked as its fragments come in, so that it is refused with the first octet that no
text has there.

This is the reading side of `tungstenite`, with the limits of the program's `WebSocketConfig`.
-/

namespace Carrier

/-- How long frames and messages may be. -/
structure Limits where
  /-- The longest payload of a frame. -/
  frame : Nat := 16 * 1024 * 1024
  /-- The longest data message. -/
  message : Nat := 64 * 1024 * 1024
  deriving DecidableEq, Repr

/-- A message as the client sees it. -/
inductive Message where
  /-- Data. -/
  | data (kind : DataKind) (payload : Bytes)
  /-- A ping, which a pong with the same payload answers. -/
  | ping (payload : Bytes)
  /-- A pong. -/
  | pong (payload : Bytes)
  /-- A close, with the payload of the close frame that answers it. -/
  | close (reply : Bytes)
  deriving DecidableEq, Repr

/-- A data message of which some frames are still missing. -/
structure Fragments where
  /-- Text or binary. -/
  kind : DataKind
  /-- The payload so far. -/
  payload : Bytes
  /-- What may follow it, if it is a text. -/
  state : Utf8.State
  deriving DecidableEq, Repr

namespace Fragments

/-- A message that has no payload yet. -/
def empty (kind : DataKind) : Fragments := ⟨kind, [], .boundary⟩

/-- The message with one more part. -/
def extend (limit : Nat) (m : Fragments) (part : Bytes) : Except SocketFault Fragments :=
  let size := m.payload.length + part.length
  if limit < size then .error (.tooLong size limit)
  else
    match m.kind with
    | .binary => .ok { m with payload := m.payload ++ part }
    | .text =>
      match Utf8.check m.state part with
      | some state => .ok { m with payload := m.payload ++ part, state := state }
      | none => .error .invalidText

/-- The message when its last part has come. -/
def complete (m : Fragments) : Except SocketFault Message :=
  match m.kind with
  | .binary => .ok (.data .binary m.payload)
  | .text =>
    if m.state = .boundary then .ok (.data .text m.payload) else .error .invalidText

end Fragments

/-- Whether a close code may be sent. -/
def closeCodeAllowed (code : Nat) : Bool :=
  (1000 ≤ code && code ≤ 1003) || (1007 ≤ code && code ≤ 1013) || (3000 ≤ code && code ≤ 4999)

/-- The close payload in the place of one whose code may not be sent. -/
def violationClose : Bytes :=
  Bytes.bigEndian 2 1002 ++ Utf8.encode "Protocol violation".toList

/-- The payload of the close frame that answers one. -/
def closeReply : Bytes → Except SocketFault Bytes
  | [] => .ok []
  | [_] => .error (.protocol .invalidClose)
  | a :: b :: reason =>
    if Utf8.check .boundary reason = some .boundary then
      if closeCodeAllowed (Bytes.number [a, b]) then .ok (a :: b :: reason)
      else .ok violationClose
    else .error .invalidText

/-- What a control frame says. -/
def readControl (f : WireFrame) (opcode : Opcode) : Except SocketFault Message :=
  if ¬ f.fin then .error (.protocol .fragmentedControl)
  else if 125 < f.payload.length then .error (.protocol .controlTooLong)
  else
    match opcode with
    | .ping => .ok (.ping f.payload)
    | .pong => .ok (.pong f.payload)
    | _ => (closeReply f.payload).map .close

/-- The last frame of a message completes it; any other leaves it open. -/
def settleFragments (fin : Bool) (m : Fragments) :
    Except SocketFault (Option Fragments × Option Message) :=
  if fin then m.complete.map fun message => (none, some message) else .ok (some m, none)

/-- What a data frame does to the message that is open. -/
def readData (limit : Nat) (pending : Option Fragments) (f : WireFrame) (opcode : Opcode) :
    Except SocketFault (Option Fragments × Option Message) := do
  match pending, opcode with
  | some _, .text => throw (.protocol (.unfinished .text))
  | some _, .binary => throw (.protocol (.unfinished .binary))
  | some m, _ => settleFragments f.fin (← m.extend limit f.payload)
  | none, .text => settleFragments f.fin (← (Fragments.empty .text).extend limit f.payload)
  | none, .binary => settleFragments f.fin (← (Fragments.empty .binary).extend limit f.payload)
  | none, _ => throw (.protocol .nothingToContinue)

/-- One more frame: what is left open, and the message that is complete. -/
def acceptFrame (limit : Nat) (pending : Option Fragments) (f : WireFrame) :
    Except SocketFault (Option Fragments × Option Message) :=
  if f.reserved ≠ 0 then .error (.protocol .reservedBits)
  else if f.mask.isSome then .error (.protocol .maskedFrame)
  else
    match Opcode.ofCode? f.code with
    | none => .error (.protocol (.invalidOpcode f.code))
    | some opcode =>
      if opcode.isControl then (readControl f opcode).map fun message => (pending, some message)
      else readData limit pending f opcode

/-- What the octets from a server begin with, after the frames that have been read. -/
inductive Intake where
  /-- More octets are needed. -/
  | incomplete
  /-- Nothing more can be read. -/
  | broken (fault : SocketFault)
  /-- A frame: what it leaves open, the message that it completes, and the octets after it. -/
  | frame (pending : Option Fragments) (message : Option Message) (rest : Bytes)
  deriving DecidableEq, Repr

namespace Intake

/-- Reads the frame that octets begin with, where some frames of a message may have come before. -/
def read (limits : Limits) (pending : Option Fragments) (bytes : Bytes) : Intake :=
  match WireFrame.read limits.frame bytes with
  | .incomplete => .incomplete
  | .refused fault => .broken fault
  | .frame f rest =>
    match acceptFrame limits.message pending f with
    | .error fault => .broken fault
    | .ok (open?, message) => .frame open? message rest

/-- A frame that is read leaves fewer octets. -/
theorem read_shorter {limits : Limits} {pending open? : Option Fragments} {bytes rest : Bytes}
    {message : Option Message} (h : read limits pending bytes = .frame open? message rest) :
    rest.length < bytes.length := by
  unfold read at h
  cases hw : WireFrame.read limits.frame bytes with
  | incomplete => simp [hw] at h
  | refused fault => simp [hw] at h
  | frame f after =>
    rw [hw] at h
    cases ha : acceptFrame limits.message pending f with
    | error fault => simp [ha] at h
    | ok result =>
      simp only [ha, Intake.frame.injEq] at h
      exact h.2.2 ▸ WireFrame.read_shorter hw

end Intake

end Carrier
