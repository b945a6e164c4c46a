import Carrier.Program.Launch
import Carrier.Stdio

/-!
# The process that carries its standard streams

The process dials once and ends with its tunnel. A read of standard input that has begun cannot be
called off, nor can a write to standard output: where the tunnel has ended and one of them has not
come back, the process stays until it does.

The lookup of a host's name is left out here. One that is under way when the dial is given up keeps
the process as well, as it keeps a process that listens.

- `TunnelProcess`: such a process.
- `TunnelEvent`: what happens around it.
- `TunnelProcess.step`: one event.
- `TunnelProcess.exit?`: how the process has ended.

These are the program's `run_stdio` with `cancel_on_ctrl_c`, and the end of the runtime when `main`
returns.
-/

namespace Carrier

/-- Whether a process is there. -/
inductive TunnelPhase where
  /-- The tunnel has not ended. -/
  | running
  /-- The tunnel has ended; whether a read and whether a write have to come back. -/
  | lingering (reading writing : Bool)
  /-- The process has ended. -/
  | ended
  deriving DecidableEq, Repr

/-- A process that carries its standard streams. -/
structure TunnelProcess where
  /-- How it dials. -/
  dialer : Dialer
  /-- The tunnel. -/
  tunnel : Stdio
  /-- Whether the process is there. -/
  phase : TunnelPhase

/-- What happens around a process. -/
inductive TunnelEvent where
  /-- The dial comes to an end, with a challenge and what the origin does. -/
  | dial (key : HeaderValue) (origin : Origin)
  /-- Something happens on one of the sides of the tunnel. -/
  | relay (event : Event)
  /-- The operator interrupts the process. -/
  | interrupt

/-- The record of an interrupt. -/
def interruptRecord : LogRecord := ⟨.info, "Received Ctrl+C, shutting down", []⟩

/-- Whether a relay that ends for a cause has begun a read that has not come back. -/
def Cause.leavesRead : Cause → Bool
  | .localEof | .localReadFailed _ | .remoteSendFailed _ => false
  | _ => true

/-- The exit of a process for what its tunnel reports. -/
def ProgramExit.ofTunnel : Except TunnelError Summary → ProgramExit
  | .ok _ => .success
  | .error .cancelled => .success
  | .error cause => (ProgramFault.tunnel cause).exit

namespace TunnelProcess

/-- The records of a tunnel that has ended. -/
def endRecords : Except TunnelError Summary → List LogRecord
  | .ok s =>
    [⟨.info, "Tunnel closed",
      [("end", s.ending.name), ("bytes_to_remote", toString s.toRemote),
        ("bytes_to_local", toString s.toLocal)]⟩]
  | .error .cancelled => [⟨.info, "Interrupted before the tunnel was established", []⟩]
  | .error _ => []

/-- A process that stays until a read and a write have come back. -/
def wait (reading writing : Bool) : TunnelPhase :=
  if reading || writing then .lingering reading writing else .ended

/-- The phase after the tunnel has come to a state. -/
def phaseAfter (tunnel : Stdio) : TunnelPhase :=
  match tunnel.phase, tunnel.relay.cause with
  | .connecting, _ | .relaying, none => .running
  | .failed _, _ => .ended
  | .relaying, some cause => wait cause.leavesRead tunnel.relay.held.isSome

/-- A process whose tunnel has come to a state, and its records. -/
def follow (p : TunnelProcess) (step : Stdio × Traffic × List LogRecord) :
    TunnelProcess × Traffic × List LogRecord :=
  let (tunnel, traffic, records) := step
  ({ p with tunnel := tunnel, phase := phaseAfter tunnel }, traffic,
    records ++ (tunnel.result?.map endRecords).getD [])

/-- A process that begins. -/
def start (dialer : Dialer) (options : DialOptions) (deadline : Option Duration) :
    TunnelProcess × Traffic × List LogRecord :=
  let step := Stdio.start options dialer.limits deadline .pending
  follow ⟨dialer, step.1, .running⟩ step

/-- The process after the dial has come to an end. What came with the answer is there before the
relay begins. -/
def dialed (p : TunnelProcess) (key : HeaderValue) (origin : Origin) :
    TunnelProcess × Traffic × List LogRecord :=
  match p.tunnel.phase with
  | .connecting =>
    match p.dialer.dial p.tunnel.options key origin with
    | .error cause => p.follow (p.tunnel.step (.dialFailed cause))
    | .ok established =>
      let tunnel := (p.tunnel.step (.relay (.remoteBytes established.early))).1
      let (after, traffic, records) := p.follow (tunnel.step .established)
      (after, traffic, established.record :: records)
  | _ => (p, Traffic.none, [])

/-- The request that a dial sends. -/
def request? (p : TunnelProcess) : TunnelEvent → Option SentRequest
  | .dial key origin =>
    match p.tunnel.phase with
    | .connecting => p.dialer.sent? p.tunnel.options key origin
    | _ => none
  | _ => none

/-- Whether an event brings a read of standard input back. -/
def endsRead : Event → Bool
  | .localWrite data => !data.isEmpty
  | .localEnd _ => true
  | _ => false

/-- Whether an event brings a write to standard output back. -/
def endsWrite : Event → Bool
  | .localResume | .localWriteFault _ => true
  | _ => false

/-- One event. -/
def step (p : TunnelProcess) (e : TunnelEvent) : TunnelProcess × Traffic × List LogRecord :=
  match p.phase, e with
  | .running, .dial key origin => p.dialed key origin
  | .running, .relay .cancel => (p, Traffic.none, [])
  | .running, .relay event => p.follow (p.tunnel.step (.relay event))
  | .running, .interrupt =>
    let (after, traffic, records) := p.follow (p.tunnel.step (.relay .cancel))
    (after, traffic, interruptRecord :: records)
  | .lingering reading writing, .relay event =>
    ({ p with phase := wait (reading && !endsRead event) (writing && !endsWrite event) },
      Traffic.none, [])
  | _, _ => (p, Traffic.none, [])

/-- How the process has ended. -/
def exit? (p : TunnelProcess) : Option ProgramExit :=
  match p.phase with
  | .ended => p.tunnel.result?.map ProgramExit.ofTunnel
  | _ => none

end TunnelProcess

end Carrier
