import Carrier.DialOptions
import Carrier.Log
import Carrier.Relay.Run

/-!
# A tunnel for standard input and output

A process that tunnels its own input and output dials once and relays until one side ends. Until
the dial has succeeded nothing is read and no time is counted.

- `Stdio`: such a tunnel, before, during or after its relay, or failed before it.
- `Stdio.start`: what becomes of a tunnel at once.
- `Stdio.step`: one event.
- `Stdio.result?`: what a tunnel that has ended reports.

This is `run_with` of the program's `StdioClient`.
-/

namespace Carrier

/-- What a dial comes to. -/
inductive DialOutcome where
  /-- The WebSocket is there. -/
  | established
  /-- Nothing has come of it yet. -/
  | pending
  /-- It failed. -/
  | failed (cause : DialError)
  deriving DecidableEq, Repr

/-- Where a tunnel stands. -/
inductive StdioPhase where
  /-- The dial has not succeeded yet. -/
  | connecting
  /-- The relay has begun. -/
  | relaying
  /-- There was no relay. -/
  | failed (cause : TunnelError)
  deriving DecidableEq, Repr

/-- A tunnel for standard input and output. -/
structure Stdio where
  /-- What it was asked for. -/
  options : DialOptions
  /-- Where it stands. -/
  phase : StdioPhase
  /-- The relay; before it begins it only takes in what waits on both sides. -/
  relay : Relay
  deriving DecidableEq, Repr

/-- What happens around a tunnel. -/
inductive StdioEvent where
  /-- Something happens on one of its sides. -/
  | relay (event : Event)
  /-- The dial that was pending succeeds. -/
  | established
  /-- The dial that was pending fails. -/
  | dialFailed (cause : DialError)
  deriving DecidableEq, Repr

namespace Stdio

/-- The record that the tunnel is there. -/
def opened (options : DialOptions) : LogRecord where
  level := .info
  message := "Tunneling standard input/output"
  fields := [("origin", options.origin)]

/-- The tunnel, the traffic and the records after the dial has succeeded. -/
def establish (s : Stdio) : Stdio × Traffic × List LogRecord :=
  let (relay, traffic) := s.relay.settle
  ({ s with phase := .relaying, relay := relay }, traffic, [opened s.options])

/-- The tunnel after a failure before the relay; the transport is given up. -/
def fail (s : Stdio) (cause : TunnelError) : Stdio :=
  { s with
    phase := .failed cause
    relay := { s.relay with letGo := true } }

/-- A tunnel whose dial comes to what is given. Options that cannot be dialed end it first. -/
def start (options : DialOptions) (limits : Limits) (deadline : Option Duration)
    (dial : DialOutcome) : Stdio × Traffic × List LogRecord :=
  let s : Stdio := ⟨options, .connecting, { limits := limits, deadline := deadline }⟩
  match options.validate with
  | .error cause => (s.fail (.setup cause), Traffic.none, [])
  | .ok _ =>
    match dial with
    | .established => s.establish
    | .pending => (s, Traffic.none, [])
    | .failed cause => (s.fail (.dial cause), Traffic.none, [])

/-- What an event comes to while the dial is pending. -/
def wait (s : Stdio) : Event → Stdio
  | .cancel => s.fail .cancelled
  | .advance _ => s
  | e => { s with relay := s.relay.absorb e }

/-- One event. -/
def step (s : Stdio) : StdioEvent → Stdio × Traffic × List LogRecord
  | .established =>
    match s.phase with
    | .connecting => s.establish
    | _ => (s, Traffic.none, [])
  | .dialFailed cause =>
    match s.phase with
    | .connecting => (s.fail (.dial cause), Traffic.none, [])
    | _ => (s, Traffic.none, [])
  | .relay e =>
    match s.phase with
    | .connecting => (s.wait e, Traffic.none, [])
    | .relaying =>
      let (relay, traffic) := s.relay.step e
      ({ s with relay := relay }, traffic, [])
    | .failed _ => (s, Traffic.none, [])

/-- What a tunnel that has ended reports. -/
def result? (s : Stdio) : Option (Except TunnelError Summary) :=
  match s.phase with
  | .connecting => none
  | .relaying => s.relay.result?
  | .failed cause => some (.error cause)

end Stdio

end Carrier
