import Carrier.Program.Listening

/-!
# A run of the program

- `Program`: the program after it has begun.
- `Program.start`: what the program finds decides what it becomes.
- `Program.step`: one event.
- `Program.exit?`: how the program has ended.

This is the program's `main`.
-/

namespace Carrier

/-- The program after it has begun. -/
inductive Program where
  /-- It ended before anything was carried. -/
  | failed (fault : ProgramFault)
  /-- It carries its standard streams. -/
  | tunnel (process : TunnelProcess)
  /-- It listens. -/
  | listening (process : ListenerProcess)

/-- What happens around the program. -/
inductive ProgramEvent where
  /-- Something happens around a process that carries its standard streams. -/
  | tunnel (event : TunnelEvent)
  /-- Something happens around a process that listens. -/
  | listening (event : ListenerEvent)

/-- What the program does in a step. -/
structure ProgramOutput where
  /-- What the standard streams or the connections of listeners carry. -/
  traffic : List (Nat × Nat × Traffic)
  /-- The request that is sent. -/
  request : Option SentRequest
  /-- What is reported. -/
  logs : List LogRecord
  deriving DecidableEq, Repr

namespace Program

/-- What the program becomes, and what is reported. -/
def start (dialer : Dialer) (s : Surroundings) : Program × List LogRecord :=
  match Launch.prepare s dialer.limits with
  | (.error fault, records) => (.failed fault, records)
  | (.ok (.tunnel options deadline), records) =>
    let (process, _, more) := TunnelProcess.start dialer options deadline
    (.tunnel process, records ++ more)
  | (.ok (.listeners forwarders), records) =>
    let (process, more) := ListenerProcess.start dialer forwarders
    (.listening process, records ++ more)

/-- One event; those of another kind of process do nothing. -/
def step (p : Program) (e : ProgramEvent) : Program × ProgramOutput :=
  match p, e with
  | .tunnel process, .tunnel event =>
    let (after, traffic, logs) := process.step event
    (.tunnel after, ⟨[(0, 0, traffic)], process.request? event, logs⟩)
  | .listening process, .listening event =>
    let (after, output) := process.step event
    (.listening after, ⟨output.traffic, process.request? event, output.logs⟩)
  | p, _ => (p, ⟨[], none, []⟩)

/-- The relay of a connection, under way or ended; the standard streams count as the first
connection of the first listener. -/
def relay? (p : Program) (listener connection : Nat) : Option Relay :=
  match p with
  | .failed _ => none
  | .tunnel process =>
    match process.tunnel.phase with
    | .relaying => some process.tunnel.relay
    | _ => none
  | .listening process =>
    match process.forwarders[listener]?.bind (·.connections[connection]?) with
    | some (.relayed relay) => some relay
    | _ => none

/-- How the program has ended. -/
def exit? : Program → Option ProgramExit
  | .failed fault => some fault.exit
  | .tunnel process => process.exit?
  | .listening process => process.exit?

/-- The program and its outputs after each event of a script. -/
def states (p : Program) : List ProgramEvent → List (Program × ProgramOutput)
  | [] => []
  | e :: es =>
    let next := p.step e
    next :: next.1.states es

end Program

end Carrier
