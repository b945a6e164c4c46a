import Carrier.Forwarder.Bind
import Carrier.Relay.Run
import Carrier.Stdio

/-!
# Forwarders

A forwarder listens on a local address and carries each connection that it accepts over a
WebSocket of its own. When it is shut down, connections that have no WebSocket yet are given up,
and the others go on until they end by themselves.

- `Connection`: an accepted connection.
- `Connection.step`, `Connection.run`: one event for a connection, and a number of them.
- `Forwarder`: a listener and its connections.
- `Forwarder.bind`: a forwarder that begins to listen.
- `Forwarder.step`: one event for a forwarder.
- `Forwarder.run`: a whole script; `ForwarderOutput.sentBy`: what one connection sends in it.
- `Forwarder.inFlight`: how many connections are being relayed.

These are the program's `Forwarder` with `run` and `handle_connection`, and its `InFlight`.
-/

namespace Carrier

/-! ### Connections -/

/-- An accepted connection. -/
inductive Connection where
  /-- It has no WebSocket yet; what comes from the application waits. -/
  | connecting (waiting : Relay)
  /-- No WebSocket could be had. -/
  | failed (cause : DialError)
  /-- It was given up before it had a WebSocket. -/
  | abandoned
  /-- It is or was relayed. -/
  | relayed (relay : Relay)
  deriving DecidableEq, Repr

/-- What happens to a connection. -/
inductive ConnectionEvent where
  /-- Its WebSocket is there. -/
  | established
  /-- Its dial failed. -/
  | dialFailed (cause : DialError)
  /-- The forwarder is shut down. -/
  | shutdown
  /-- Time passes. -/
  | advance (span : Duration)
  /-- Something happens on one of its sides. -/
  | relay (event : Event)
  deriving DecidableEq, Repr

namespace Connection

/-- The record of a dial that failed. -/
def dialRecord (cause : DialError) : LogRecord where
  level := .error
  message := "Failed to establish carrier connection: " ++ (TunnelError.dial cause).message
  fields := []

/-- The record of a relay that has ended. -/
def endRecord : Except TunnelError Summary → LogRecord
  | .ok s =>
    ⟨.info, "Carrier connection closed",
      [("end", s.ending.name), ("bytes_to_remote", toString s.toRemote),
        ("bytes_to_local", toString s.toLocal)]⟩
  | .error e => ⟨.warn, "Carrier connection ended with error: " ++ e.message, []⟩

/-- A connection whose relay has come to a state, with the record of its end if it has ended. -/
def afterRelay (step : Relay × Traffic) : Connection × Traffic × List LogRecord :=
  (.relayed step.1, step.2, (step.1.result?.map endRecord).toList)

/-- An event of a relay, where time and cancelling are not events of a single connection. -/
def relayStep (r : Relay) (e : Event) : Connection × Traffic × List LogRecord :=
  match r.cause with
  | some _ => (.relayed r, Traffic.none, [])
  | none => afterRelay (r.step e)

/-- Whether an event of a relay may happen to one connection alone. -/
def isOwn : Event → Bool
  | .cancel | .advance _ => false
  | _ => true

/-- One event for a connection. -/
def step (c : Connection) (e : ConnectionEvent) : Connection × Traffic × List LogRecord :=
  match c, e with
  | .connecting waiting, .established => afterRelay waiting.settle
  | .connecting _, .dialFailed cause => (.failed cause, Traffic.none, [dialRecord cause])
  | .connecting _, .shutdown => (.abandoned, Traffic.none, [])
  | .connecting waiting, .relay event =>
    (.connecting (if isOwn event then waiting.absorb event else waiting), Traffic.none, [])
  | .relayed r, .relay event =>
    if isOwn event then relayStep r event else (.relayed r, Traffic.none, [])
  | .relayed r, .advance span => relayStep r (.advance span)
  | c, _ => (c, Traffic.none, [])

/-- A connection that has just been accepted, and whose dial comes to what is given. -/
def accept (limits : Limits) (deadline : Option Duration) (dial : DialOutcome) :
    Connection × Traffic × List LogRecord :=
  let c : Connection := .connecting { limits := limits, deadline := deadline }
  match dial with
  | .pending => (c, Traffic.none, [])
  | .established => c.step .established
  | .failed cause => c.step (.dialFailed cause)

/-- A connection after a number of events, with all of its traffic. -/
def run (c : Connection) : List ConnectionEvent → Connection × Traffic
  | [] => (c, Traffic.none)
  | e :: es =>
    let (next, first, _) := c.step e
    let (last, rest) := next.run es
    (last, first.followedBy rest)

/-- Whether a connection is being relayed. -/
def isOpen : Connection → Bool
  | .relayed r => r.cause.isNone
  | _ => false

end Connection

/-! ### Forwarders -/

/-- A listener and its connections. -/
structure Forwarder where
  /-- The options of its sessions. -/
  options : DialOptions
  /-- The address that is listened on. -/
  address : SocketAddress
  /-- How long frames and messages may be. -/
  limits : Limits := {}
  /-- How long each connection may last. -/
  deadline : Option Duration := none
  /-- Whether connections are accepted. -/
  accepting : Bool := true
  /-- The connections, in the order in which they were accepted. -/
  connections : List Connection := []
  deriving DecidableEq, Repr

/-- What happens to a forwarder. -/
inductive ForwarderEvent where
  /-- A client connects, and the dial for it comes to what is given. -/
  | accept (dial : DialOutcome)
  /-- Accepting fails. -/
  | acceptFault (fault : IoFault)
  /-- Something happens to one connection. -/
  | connection (index : Nat) (event : ConnectionEvent)
  /-- Time passes. -/
  | advance (span : Duration)
  /-- The forwarder is shut down. -/
  | shutdown
  deriving DecidableEq, Repr

/-- What a forwarder does in a step: what each connection sends, and what is reported. -/
structure ForwarderOutput where
  /-- Indices of connections, and what they send. -/
  traffic : List (Nat × Traffic)
  /-- What is reported. -/
  logs : List LogRecord
  deriving DecidableEq, Repr

namespace ForwarderOutput

/-- Nothing is sent and nothing is reported. -/
def none : ForwarderOutput := ⟨[], []⟩

/-- What is done first, and what is done then. -/
def followedBy (o p : ForwarderOutput) : ForwarderOutput :=
  ⟨o.traffic ++ p.traffic, o.logs ++ p.logs⟩

/-- All that one connection sends. -/
def sentBy (o : ForwarderOutput) (index : Nat) : Traffic :=
  Traffic.join (o.traffic.filterMap fun (i, t) => if i = index then some t else Option.none)

end ForwarderOutput

namespace Forwarder

/-- A forwarder that listens on an address, given the addresses that this process has bound.
Options that cannot be dialed are refused before the system is asked. -/
def bind (system : System) (bound : List SocketAddress) (text : String) (options : DialOptions) :
    Except TunnelError Forwarder :=
  match options.validate with
  | .error cause => .error (.setup cause)
  | .ok _ =>
    match system.bind bound text with
    | .error fault => .error (.bind text fault)
    | .ok address => .ok { options := options, address := address }

/-- The record that a forwarder begins to accept. -/
def startRecord (f : Forwarder) : LogRecord :=
  ⟨.info, "Start Websocket listener", [("origin", f.options.origin)]⟩

/-- The records of a forwarder that is shut down. -/
def shutdownRecords : List LogRecord :=
  [⟨.info, "Shutdown requested, closing listener", []⟩,
    ⟨.info, "Websocket listener stopped", []⟩]

/-- The record of accepting that failed. -/
def acceptRecord (fault : IoFault) : LogRecord :=
  ⟨.warn, "Failed to accept local connection: " ++ fault.message, []⟩

/-- One event for all connections. -/
def stepAll (e : ConnectionEvent) (index : Nat) : List Connection →
    List Connection × ForwarderOutput
  | [] => ([], ⟨[], []⟩)
  | c :: rest =>
    let (c, traffic, logs) := c.step e
    let (cs, output) := stepAll e (index + 1) rest
    (c :: cs, ⟨(index, traffic) :: output.traffic, logs ++ output.logs⟩)

/-- One event for one connection; time and shutting down are events for all. -/
def stepOne (f : Forwarder) (index : Nat) (e : ConnectionEvent) : Forwarder × ForwarderOutput :=
  match e, f.connections[index]? with
  | .shutdown, _ | .advance _, _ | _, none => (f, ⟨[], []⟩)
  | e, some c =>
    let (c, traffic, logs) := c.step e
    ({ f with connections := f.connections.set index c }, ⟨[(index, traffic)], logs⟩)

/-- One event for a forwarder. -/
def step (f : Forwarder) : ForwarderEvent → Forwarder × ForwarderOutput
  | .accept dial =>
    if f.accepting then
      let (c, traffic, logs) := Connection.accept f.limits f.deadline dial
      ({ f with connections := f.connections ++ [c] },
        ⟨[(f.connections.length, traffic)], logs⟩)
    else (f, ⟨[], []⟩)
  | .acceptFault fault => (f, ⟨[], if f.accepting then [acceptRecord fault] else []⟩)
  | .connection index e => f.stepOne index e
  | .advance span =>
    let (cs, output) := stepAll (.advance span) 0 f.connections
    ({ f with connections := cs }, output)
  | .shutdown =>
    if f.accepting then
      let (cs, output) := stepAll .shutdown 0 f.connections
      ({ f with accepting := false, connections := cs },
        { output with logs := shutdownRecords ++ output.logs })
    else (f, ⟨[], []⟩)

/-- How many connections are being relayed. -/
def inFlight (f : Forwarder) : Nat := f.connections.countP Connection.isOpen

/-- The states and outputs of a forwarder after each event of a script. -/
def states (f : Forwarder) : List ForwarderEvent → List (Forwarder × ForwarderOutput)
  | [] => []
  | e :: es =>
    let next := f.step e
    next :: next.1.states es

/-- A forwarder after a script, with all that it did. -/
def run (f : Forwarder) : List ForwarderEvent → Forwarder × ForwarderOutput
  | [] => (f, ForwarderOutput.none)
  | e :: es =>
    let (next, first) := f.step e
    let (last, rest) := next.run es
    (last, first.followedBy rest)

end Forwarder

end Carrier
