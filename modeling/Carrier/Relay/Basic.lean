import Carrier.TunnelError
import Carrier.WebSocket.Message

/-!
# A relay between an application and a WebSocket

- `Application`: what the application's side of a relay holds and how it behaves.
- `Wire`: what has come from the other end and has not been read.
- `Event`: what happens around a relay.
- `Cause`: why a relay ended.
- `Relay`: a relay under way, or ended.
- `Relay.released`: what the other end sees of its end.
- `Traffic`: what a relay sends to both sides.
- `Relay.result?`: what a relay that has ended reports.

These are the program's `CarrierConnection`, `RelayControl`, `RelayEnd` and `RelaySummary`.
-/

namespace Carrier

/-- How the application's data end. -/
inductive ReadEnd where
  /-- There are no more. -/
  | eof
  /-- Reading fails. -/
  | failed (fault : IoFault)
  deriving DecidableEq, Repr

/-- The application's side of a relay. -/
structure Application where
  /-- The chunks written by the application that have not been read. -/
  unread : List Bytes := []
  /-- What follows them, if it is known. -/
  readEnd : Option ReadEnd := none
  /-- Writes to the application fail. -/
  writeFault : Option IoFault := none
  /-- Flushing fails. -/
  flushFault : Option IoFault := none
  /-- Shutting the application's side down fails. -/
  shutdownFault : Option IoFault := none
  /-- Writes to the application take no octet. -/
  takesNothing : Bool := false
  /-- The most octets that one write takes; 0 for any number. -/
  writeLimit : Nat := 0
  /-- Writes to the application have to wait. -/
  stalled : Bool := false
  deriving DecidableEq, Repr

/-- The transport to the other end. -/
structure Wire where
  /-- The octets that have come and have not been read. -/
  unread : Bytes := []
  /-- The other end has gone. -/
  dropped : Bool := false
  deriving DecidableEq, Repr

/-- What happens around a relay. -/
inductive Event where
  /-- The application writes. -/
  | localWrite (data : Bytes)
  /-- The application writes no more. -/
  | localEnd (how : ReadEnd)
  /-- Writes to the application fail from now on. -/
  | localWriteFault (fault : IoFault)
  /-- Flushing fails from now on. -/
  | localFlushFault (fault : IoFault)
  /-- Shutting down fails from now on. -/
  | localShutdownFault (fault : IoFault)
  /-- Writes to the application take no octet from now on. -/
  | localTakesNothing
  /-- A write takes at most so many octets from now on; 0 for any number. -/
  | localWriteLimit (octets : Nat)
  /-- Writes to the application have to wait. -/
  | localStall
  /-- Writes to the application go on. -/
  | localResume
  /-- Octets come from the other end. -/
  | remoteBytes (data : Bytes)
  /-- The other end goes. -/
  | remoteDrop
  /-- The relay is called off. -/
  | cancel
  /-- Time passes. -/
  | advance (span : Duration)
  deriving DecidableEq, Repr

/-- Why a relay ended. -/
inductive Cause where
  /-- The application writes no more. -/
  | localEof
  /-- Reading from the application failed. -/
  | localReadFailed (fault : IoFault)
  /-- Writing to the application failed. -/
  | localWriteFailed (fault : IoFault)
  /-- The other end closed; the payload of the close frame that answers. -/
  | remoteClosed (reply : Bytes)
  /-- Reading from the other end failed. -/
  | remoteReadFailed (fault : SocketFault)
  /-- Sending to the other end failed. -/
  | remoteSendFailed (fault : SocketFault)
  /-- The relay was called off. -/
  | cancelled
  /-- The time allowed is over. -/
  | deadline (limit : Duration)
  deriving DecidableEq, Repr

/-- How a relay ended well. -/
inductive RelayEnd where
  /-- The application had no more to write. -/
  | localClosed
  /-- The other end closed. -/
  | remoteClosed
  /-- The relay was called off. -/
  | cancelled
  deriving DecidableEq, Repr

/-- The name of an end. -/
def RelayEnd.name : RelayEnd → String
  | .localClosed => "LocalClosed"
  | .remoteClosed => "RemoteClosed"
  | .cancelled => "Cancelled"

/-- What a relay that ended well reports. -/
structure Summary where
  /-- How it ended. -/
  ending : RelayEnd
  /-- How many octets were sent to the other end. -/
  toRemote : Nat
  /-- How many octets were handed to the application. -/
  toLocal : Nat
  deriving DecidableEq, Repr

/-- What a relay reports that ended for a cause. -/
def Cause.result (toRemote toLocal : Nat) : Cause → Except TunnelError Summary
  | .localEof => .ok ⟨.localClosed, toRemote, toLocal⟩
  | .localReadFailed fault => .error (.relayIo .toRemote fault)
  | .localWriteFailed fault => .error (.relayIo .toLocal fault)
  | .remoteClosed _ => .ok ⟨.remoteClosed, toRemote, toLocal⟩
  | .remoteReadFailed fault => .error (.relaySocket .toLocal fault)
  | .remoteSendFailed fault => .error (.relaySocket .toRemote fault)
  | .cancelled => .ok ⟨.cancelled, toRemote, toLocal⟩
  | .deadline limit => .error (.deadlineExceeded limit)

/-- The close frame that a relay sends when it ends: the answer to one, or an empty one. -/
def Cause.closeFrame : Cause → Frame
  | .remoteClosed reply => .whole .close reply
  | _ => .whole .close []

/-- What a relay sends to both sides. -/
structure Traffic where
  /-- The frames sent to the other end. -/
  frames : List Frame
  /-- The writes that the application took. -/
  writes : List Bytes
  deriving DecidableEq, Repr

namespace Traffic

/-- Nothing is sent. -/
def none : Traffic := ⟨[], []⟩

/-- One frame to the other end. -/
def frame (f : Frame) : Traffic := ⟨[f], []⟩

/-- Writes that the application took. -/
def written (pieces : List Bytes) : Traffic := ⟨[], pieces⟩

/-- What is sent first, and what is sent then. -/
def followedBy (t u : Traffic) : Traffic := ⟨t.frames ++ u.frames, t.writes ++ u.writes⟩

/-- What is sent in a number of steps. -/
def join (steps : List Traffic) : Traffic := steps.foldr followedBy none

/-- The octets that the application took. -/
def delivered (t : Traffic) : Bytes := t.writes.flatten

@[simp] theorem none_followedBy (t : Traffic) : none.followedBy t = t := rfl

@[simp] theorem followedBy_none (t : Traffic) : t.followedBy none = t := by
  simp [followedBy, none]

theorem followedBy_assoc (t u v : Traffic) :
    (t.followedBy u).followedBy v = t.followedBy (u.followedBy v) := by
  simp [followedBy]

@[simp] theorem join_append (steps more : List Traffic) :
    join (steps ++ more) = (join steps).followedBy (join more) := by
  induction steps with
  | nil => rfl
  | cons t rest ih =>
    show t.followedBy (join (rest ++ more)) = _
    rw [ih, ← followedBy_assoc]
    rfl

@[simp] theorem written_nil : written [] = none := rfl

@[simp] theorem frames_followedBy (t u : Traffic) :
    (t.followedBy u).frames = t.frames ++ u.frames := rfl

@[simp] theorem writes_followedBy (t u : Traffic) :
    (t.followedBy u).writes = t.writes ++ u.writes := rfl

end Traffic

/-- A relay. -/
structure Relay where
  /-- How long frames and messages may be. -/
  limits : Limits := {}
  /-- How long the relay may last. -/
  deadline : Option Duration := none
  /-- How long it has lasted. -/
  elapsed : Duration := ⟨0⟩
  /-- The application's side. -/
  app : Application := {}
  /-- The transport to the other end. -/
  wire : Wire := {}
  /-- The message of which some frames are missing. -/
  pending : Option Fragments := none
  /-- The message that waits until the application takes it. -/
  held : Option Bytes := none
  /-- How many octets were sent to the other end. -/
  toRemote : Nat := 0
  /-- How many octets were handed to the application. -/
  toLocal : Nat := 0
  /-- Why the relay has ended, if it has. -/
  cause : Option Cause := none
  /-- How often the application's side was shut down. -/
  shutdowns : Nat := 0
  /-- Whether the relay has let its socket go. -/
  letGo : Bool := false
  deriving DecidableEq, Repr

/-- Whether the other end has seen the transport end, which it does unless it went first. -/
def Relay.released (r : Relay) : Bool := r.letGo && !r.wire.dropped

/-- What a relay that has ended reports. -/
def Relay.result? (r : Relay) : Option (Except TunnelError Summary) :=
  r.cause.map (Cause.result r.toRemote r.toLocal)

end Carrier
