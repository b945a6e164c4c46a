import Carrier.Program.Tunnel

/-!
# The process that listens

The process accepts connections until it is interrupted. It waits until the last connection that is
being relayed has ended, or until it is interrupted again, and then it leaves.

The name of a host is looked up by the system, which cannot be told to stop: a lookup goes on when
its connection has been given up, or when the time for its dial is over. A process that leaves stays
until the lookups that are under way have come back.

- `ListenerProcess`: such a process.
- `ListenerEvent`: what happens around it.
- `ListenerProcess.step`: one event.
- `ListenerProcess.inFlight`: how many connections are being relayed.
- `ListenerProcess.lookupsAfter`: the lookups that are under way.
- `ListenerProcess.exit?`: how the process has ended.

These are the program's `run_ssh_forwarder` and `run_forwarders` after their listeners have begun,
`drain`, and the end of the runtime when `main` returns.
-/

namespace Carrier

/-- Whether a process is there. -/
inductive ListenerPhase where
  /-- It accepts connections. -/
  | serving
  /-- It waits for connections to end. -/
  | draining
  /-- It does nothing any more, but lookups have to come back. -/
  | leaving
  /-- It has ended. -/
  | ended
  deriving DecidableEq, Repr

/-- A process that listens. -/
structure ListenerProcess where
  /-- How it dials. -/
  dialer : Dialer
  /-- The listeners. -/
  forwarders : List Forwarder
  /-- Whether the process is there. -/
  phase : ListenerPhase
  /-- The lookups that are under way: listener and position of the connection that each is for. -/
  lookups : List (Nat × Nat) := []

/-- What happens around a process. -/
inductive ListenerEvent where
  /-- A client connects to a listener. -/
  | connect (listener : Nat)
  /-- Accepting fails. -/
  | acceptFault (listener : Nat) (fault : IoFault)
  /-- The dial for a connection comes to an end, with a challenge and what the origin does. -/
  | dial (listener connection : Nat) (key : HeaderValue) (origin : Origin)
  /-- The lookup for a connection is over: the system has answered, or had not begun with it when
  the process left. -/
  | lookedUp (listener connection : Nat)
  /-- Something happens on one of the sides of a connection. -/
  | relay (listener connection : Nat) (event : Event)
  /-- Time passes. -/
  | advance (span : Duration)
  /-- The operator interrupts the process. -/
  | interrupt

/-- What a process does in a step: what each connection of each listener sends, and what is
reported. -/
structure ListenerOutput where
  /-- Indices of a listener and a connection, and what the connection sends. -/
  traffic : List (Nat × Nat × Traffic)
  /-- What is reported. -/
  logs : List LogRecord
  deriving DecidableEq, Repr

namespace ListenerOutput

/-- Nothing is done. -/
def none : ListenerOutput := ⟨[], []⟩

/-- What one listener does. -/
def ofForwarder (listener : Nat) (o : ForwarderOutput) : ListenerOutput :=
  ⟨o.traffic.map fun (connection, traffic) => (listener, connection, traffic), o.logs⟩

/-- What is done first, and what is done then. -/
def followedBy (o p : ListenerOutput) : ListenerOutput :=
  ⟨o.traffic ++ p.traffic, o.logs ++ p.logs⟩

end ListenerOutput

namespace ListenerProcess

/-- A process that begins. -/
def start (dialer : Dialer) (forwarders : List Forwarder) : ListenerProcess × List LogRecord :=
  ({ dialer := dialer, forwarders := forwarders, phase := .serving },
    forwarders.map Forwarder.startRecord)

/-- How many connections are being relayed. -/
def inFlight (p : ListenerProcess) : Nat :=
  p.forwarders.foldr (fun f n => f.inFlight + n) 0

/-- One event for one listener. -/
def stepOne (p : ListenerProcess) (listener : Nat) (e : ForwarderEvent) :
    ListenerProcess × ListenerOutput :=
  match p.forwarders[listener]? with
  | none => (p, .none)
  | some f =>
    let (f, output) := f.step e
    ({ p with forwarders := p.forwarders.set listener f }, .ofForwarder listener output)

/-- One event for several listeners, the first of which has an index. -/
def stepAll (e : ForwarderEvent) (index : Nat) : List Forwarder → List Forwarder × ListenerOutput
  | [] => ([], .none)
  | f :: rest =>
    let (f, output) := f.step e
    let (fs, more) := stepAll e (index + 1) rest
    (f :: fs, (ListenerOutput.ofForwarder index output).followedBy more)

/-- The connection at an index, if it has no WebSocket yet. -/
def connecting? (p : ListenerProcess) (listener connection : Nat) : Option Forwarder :=
  match p.forwarders[listener]? with
  | some f =>
    match f.connections[connection]? with
    | some (.connecting _) => some f
    | _ => none
  | none => none

/-- The process after the dial for a connection has come to an end. What came with the answer is
there before the relay begins. -/
def dialed (p : ListenerProcess) (listener connection : Nat) (key : HeaderValue)
    (origin : Origin) : ListenerProcess × ListenerOutput :=
  match p.connecting? listener connection with
  | none => (p, .none)
  | some f =>
    match p.dialer.dial f.options key origin with
    | .error cause => p.stepOne listener (.connection connection (.dialFailed cause))
    | .ok established =>
      let early := Event.remoteBytes established.early
      let waiting := (p.stepOne listener (.connection connection (.relay early))).1
      let (after, output) := waiting.stepOne listener (.connection connection .established)
      (after, { output with logs := established.record :: output.logs })

/-- The request that a dial sends. -/
def request? (p : ListenerProcess) : ListenerEvent → Option SentRequest
  | .dial listener connection key origin =>
    (p.connecting? listener connection).bind fun f => p.dialer.sent? f.options key origin
  | _ => none

/-- The record that connections are waited for. -/
def waitRecord : LogRecord :=
  ⟨.info, "Waiting for open connections to close (Ctrl+C again to exit)", []⟩

/-- The record that connections are not waited for any longer. -/
def leaveRecord : LogRecord := ⟨.warn, "Exiting with open connections", []⟩

/-- A process that has nothing else to do: it is there as long as a lookup is under way. -/
def leave (p : ListenerProcess) : ListenerProcess :=
  { p with phase := if p.lookups.isEmpty then .ended else .leaving }

/-- The process after its first interrupt. -/
def interrupted (p : ListenerProcess) : ListenerProcess × ListenerOutput :=
  let (forwarders, output) := stepAll .shutdown 0 p.forwarders
  let after := { p with forwarders := forwarders }
  if after.inFlight = 0 then (after.leave, ⟨output.traffic, interruptRecord :: output.logs⟩)
  else
    ({ after with phase := .draining },
      ⟨output.traffic, interruptRecord :: output.logs ++ [waitRecord]⟩)

/-- One event for the listeners, interrupts apart. -/
def attend (p : ListenerProcess) : ListenerEvent → ListenerProcess × ListenerOutput
  | .connect listener => p.stepOne listener (.accept .pending)
  | .acceptFault listener fault => p.stepOne listener (.acceptFault fault)
  | .dial listener connection key origin => p.dialed listener connection key origin
  | .relay listener connection event =>
    p.stepOne listener (.connection connection (.relay event))
  | .advance span =>
    let (forwarders, output) := stepAll (.advance span) 0 p.forwarders
    ({ p with forwarders := forwarders }, output)
  | .lookedUp .. | .interrupt => (p, .none)

/-- The connection whose lookup begins with an event: that of a client that is accepted, where a
name is dialed. -/
def lookupBegun? (p : ListenerProcess) : ListenerEvent → Option (Nat × Nat)
  | .connect listener =>
    match p.forwarders[listener]? with
    | some f =>
      if f.accepting && f.options.looksUp then some (listener, f.connections.length) else none
    | none => none
  | _ => none

/-- The connection whose lookup is over with an event. It has come back by the time at which the
dial is at its end, unless the dial is out of time. -/
def lookupEnded? (p : ListenerProcess) : ListenerEvent → Option (Nat × Nat)
  | .lookedUp listener connection => some (listener, connection)
  | .dial listener connection key origin =>
    match p.connecting? listener connection with
    | some f => if p.dialer.inTime f.options key origin then some (listener, connection) else none
    | none => none
  | _ => none

/-- The lookups after an event. -/
def lookupsAfter (p : ListenerProcess) (e : ListenerEvent) : List (Nat × Nat) :=
  (p.lookupBegun? e).toList ++ p.lookups.filter fun place => p.lookupEnded? e ≠ some place

/-- One event while the process is there, interrupts apart. -/
def carry (p : ListenerProcess) (e : ListenerEvent) : ListenerProcess × ListenerOutput :=
  let (after, output) := p.attend e
  ({ after with lookups := p.lookupsAfter e }, output)

/-- A process that waits for connections leaves with the last of them. -/
def settle (step : ListenerProcess × ListenerOutput) : ListenerProcess × ListenerOutput :=
  if step.1.phase = .draining ∧ step.1.inFlight = 0 then (step.1.leave, step.2) else step

/-- One event. -/
def step (p : ListenerProcess) (e : ListenerEvent) : ListenerProcess × ListenerOutput :=
  match p.phase, e with
  | .ended, _ => (p, .none)
  | .leaving, .lookedUp .. => ({ p with lookups := p.lookupsAfter e }.leave, .none)
  | .leaving, _ => (p, .none)
  | .serving, .interrupt => p.interrupted
  | .draining, .interrupt => (p.leave, ⟨[], [leaveRecord]⟩)
  | _, e => settle (p.carry e)

/-- How the process has ended. -/
def exit? (p : ListenerProcess) : Option ProgramExit :=
  match p.phase with
  | .ended => some .success
  | _ => none

end ListenerProcess

end Carrier
