import Carrier.Relay.Basic

/-!
# How a relay runs

After each event a relay does all that it can do: it sends what the application wrote, hands over
what the other end sent, and looks at the clock.

- `Relay.finish`: the one way a relay ends.
- `Relay.send`: from the application to the other end.
- `Relay.takeIn`: one move from the other end to the application.
- `Relay.inward`: all such moves.
- `Relay.step`: one event.
- `Relay.run`, `Relay.session`: a whole script, and one from the beginning of the relay.

In the program `send` is a turn of `copy_local_to_remote`, `takeIn` one of `copy_remote_to_local`,
and `finish` what `relay` does after its `select`.
-/

namespace Carrier

/-- The most octets of the application that one frame carries. -/
def chunkSize : Nat := 16 * 1024

namespace Relay

/-- Ends the relay: the application's side is shut down, and the WebSocket is closed unless the
transport is gone. -/
def finish (r : Relay) (cause : Cause) : Relay × Traffic :=
  ({ r with cause := some cause, shutdowns := r.shutdowns + 1, letGo := true },
    if r.wire.dropped then Traffic.none else Traffic.frame cause.closeFrame)

/-- The fault of sending to an end that has gone. -/
def sendFault : SocketFault := .io (.bare .brokenPipe)

/-- Sends chunks to the other end, and after them looks at how the application's data end. -/
def send (r : Relay) : List Bytes → Relay × Traffic
  | [] =>
    match r.app.readEnd with
    | none => (r, Traffic.none)
    | some .eof => r.finish .localEof
    | some (.failed fault) => r.finish (.localReadFailed fault)
  | chunk :: rest =>
    if r.wire.dropped then r.finish (.remoteSendFailed sendFault)
    else
      let (after, traffic) := send { r with toRemote := r.toRemote + chunk.length } rest
      (after, (Traffic.frame (.whole .binary chunk)).followedBy traffic)

/-- How a message was handed to the application. -/
inductive Delivery where
  /-- It has to wait. -/
  | blocked
  /-- It failed after some writes. -/
  | failed (fault : IoFault) (writes : List Bytes)
  /-- All of it was written and flushed. -/
  | done (writes : List Bytes)
  deriving DecidableEq, Repr

/-- Flushes what was written. -/
def flush (app : Application) (writes : List Bytes) : Delivery :=
  match app.flushFault with
  | some fault => .failed fault writes
  | none => .done writes

/-- Hands a message to the application. An empty one needs no write.

A stall concerns whole messages: one of which a part has been written when the stall begins cannot
be represented. -/
def deliver (app : Application) (payload : Bytes) : Delivery :=
  if payload.isEmpty then flush app []
  else
    match app.writeFault with
    | some fault => .failed fault []
    | none =>
      if app.takesNothing then .failed (.bare .writeZero) []
      else if app.stalled then .blocked
      else flush app (Bytes.pieces app.writeLimit payload)

/-- Hands the message over that waits, unless it has to go on waiting. -/
def handOver (r : Relay) (payload : Bytes) : Option (Relay × Traffic) :=
  match deliver r.app payload with
  | .blocked => none
  | .failed fault writes =>
    let (after, traffic) := { r with held := none }.finish (.localWriteFailed fault)
    some (after, (Traffic.written writes).followedBy traffic)
  | .done writes =>
    some ({ r with held := none, toLocal := r.toLocal + payload.length }, Traffic.written writes)

/-- The relay when one more frame has been read. -/
def past (r : Relay) (pending : Option Fragments) (rest : Bytes) : Relay :=
  { r with pending := pending, wire := { r.wire with unread := rest } }

/-- Does what a message asks for that the last frame completed. -/
def react (r : Relay) : Option Message → Relay × Traffic
  | none | some (.pong _) => (r, Traffic.none)
  | some (.ping payload) =>
    if r.wire.dropped then r.finish (.remoteReadFailed sendFault)
    else (r, Traffic.frame (.whole .pong payload))
  | some (.close reply) => r.finish (.remoteClosed reply)
  | some (.data _ payload) => ({ r with held := some payload }, Traffic.none)

/-- Reads one frame of the octets that have come, unless there is none. -/
def readNext (r : Relay) : Option (Relay × Traffic) :=
  match Intake.read r.limits r.pending r.wire.unread with
  | .incomplete =>
    if r.wire.dropped then some (r.finish (.remoteReadFailed (.protocol .resetWithoutClose)))
    else none
  | .broken fault => some (r.finish (.remoteReadFailed fault))
  | .frame pending message rest => some ((r.past pending rest).react message)

/-- One move towards the application, if one can be made. -/
def takeIn (r : Relay) : Option (Relay × Traffic) :=
  match r.held with
  | some payload => r.handOver payload
  | none => r.readNext

/-- How much is left to do towards the application. -/
def backlog (r : Relay) : Nat := 2 * r.wire.unread.length + if r.held.isSome then 1 else 0

@[simp] theorem finish_cause (r : Relay) (cause : Cause) :
    (r.finish cause).1.cause = some cause := rfl

@[simp] theorem finish_frames (r : Relay) (cause : Cause) :
    (r.finish cause).2.frames = if r.wire.dropped then [] else [cause.closeFrame] := by
  unfold finish
  split <;> rfl

@[simp] theorem finish_writes (r : Relay) (cause : Cause) : (r.finish cause).2.writes = [] := by
  unfold finish
  split <;> rfl

theorem react_wire (r : Relay) (message : Option Message) : (r.react message).1.wire = r.wire := by
  unfold react
  split <;> (try split) <;> rfl

theorem handOver_backlog {r : Relay} {payload : Bytes} {next : Relay × Traffic}
    (h : r.handOver payload = some next) (hheld : r.held = some payload)
    (hrun : next.1.cause = none) : next.1.backlog < r.backlog := by
  unfold handOver at h
  cases hdel : deliver r.app payload with
  | blocked => simp [hdel] at h
  | failed fault writes =>
    simp only [hdel, Option.some.injEq] at h
    subst h
    cases hrun
  | done writes =>
    simp only [hdel, Option.some.injEq] at h
    subst h
    simp [backlog, hheld]

theorem readNext_backlog {r : Relay} {next : Relay × Traffic} (h : r.readNext = some next)
    (hrun : next.1.cause = none) : next.1.backlog < r.backlog := by
  unfold readNext at h
  cases hread : Intake.read r.limits r.pending r.wire.unread with
  | incomplete =>
    simp only [hread, Option.ite_none_right_eq_some, Option.some.injEq] at h
    obtain ⟨-, rfl⟩ := h
    cases hrun
  | broken fault =>
    simp only [hread, Option.some.injEq] at h
    subst h
    cases hrun
  | frame pending message rest =>
    simp only [hread, Option.some.injEq] at h
    subst h
    have hless := Intake.read_shorter hread
    unfold backlog
    rw [react_wire]
    show 2 * rest.length + _ < _
    split <;> omega

/-- A relay that goes on has less left to do. -/
theorem takeIn_backlog {r : Relay} {next : Relay × Traffic} (h : r.takeIn = some next)
    (hrun : next.1.cause = none) : next.1.backlog < r.backlog := by
  unfold takeIn at h
  cases hheld : r.held with
  | some payload =>
    rw [hheld] at h
    exact handOver_backlog h hheld hrun
  | none =>
    rw [hheld] at h
    exact readNext_backlog h hrun

/-- Sends what the application wrote. -/
def outward (r : Relay) : Relay × Traffic :=
  { r with app := { r.app with unread := [] } }.send
    (r.app.unread.flatMap (Bytes.pieces chunkSize))

/-- Reads frames and hands messages over, as long as the application takes them. -/
def inward (r : Relay) : Relay × Traffic :=
  match _hmove : r.takeIn with
  | none => (r, Traffic.none)
  | some (next, first) =>
    match _hrun : next.cause with
    | some _ => (next, first)
    | none =>
      let (after, rest) := next.inward
      (after, first.followedBy rest)
termination_by r.backlog
decreasing_by exact takeIn_backlog _hmove _hrun

/-- Ends the relay when it has lasted as long as it may. -/
def expire (r : Relay) : Relay × Traffic :=
  match r.deadline with
  | some limit => if limit ≤ r.elapsed then r.finish (.deadline limit) else (r, Traffic.none)
  | none => (r, Traffic.none)

/-- Goes on with a relay unless it has ended. -/
def andThen (step : Relay × Traffic) (next : Relay → Relay × Traffic) : Relay × Traffic :=
  match step.1.cause with
  | some _ => step
  | none =>
    let (after, traffic) := next step.1
    (after, step.2.followedBy traffic)

/-- Does all that can be done without another event. -/
def settle (r : Relay) : Relay × Traffic :=
  andThen (andThen r.outward inward) expire

/-- What an event changes before the relay goes on. -/
def absorb (r : Relay) : Event → Relay
  | .localWrite data =>
    { r with app := { r.app with unread := r.app.unread ++ [data] } }
  | .localEnd how =>
    { r with app := { r.app with readEnd := some (r.app.readEnd.getD how) } }
  | .localWriteFault fault => { r with app := { r.app with writeFault := some fault } }
  | .localFlushFault fault => { r with app := { r.app with flushFault := some fault } }
  | .localShutdownFault fault => { r with app := { r.app with shutdownFault := some fault } }
  | .localTakesNothing => { r with app := { r.app with takesNothing := true } }
  | .localWriteLimit octets => { r with app := { r.app with writeLimit := octets } }
  | .localStall => { r with app := { r.app with stalled := true } }
  | .localResume => { r with app := { r.app with stalled := false } }
  | .remoteBytes data =>
    if r.wire.dropped then r
    else { r with wire := { r.wire with unread := r.wire.unread ++ data } }
  | .remoteDrop => { r with wire := { r.wire with dropped := true } }
  | .cancel => r
  | .advance span => { r with elapsed := r.elapsed + span }

/-- One event; a relay that has ended stays as it is. -/
def step (r : Relay) (e : Event) : Relay × Traffic :=
  match r.cause, e with
  | some _, _ => (r, Traffic.none)
  | none, .cancel => r.finish .cancelled
  | none, e => (r.absorb e).settle

/-- A relay that begins. -/
def start (limits : Limits) (deadline : Option Duration) : Relay × Traffic :=
  settle { limits := limits, deadline := deadline }

/-- The relay and its traffic after each event of a script. -/
def states (r : Relay) : List Event → List (Relay × Traffic)
  | [] => []
  | e :: es =>
    let next := r.step e
    next :: next.1.states es

/-- The relay after a script, with all of its traffic. -/
def run (r : Relay) : List Event → Relay × Traffic
  | [] => (r, Traffic.none)
  | e :: es =>
    let (after, first) := r.step e
    let (last, rest) := after.run es
    (last, first.followedBy rest)

/-- A relay that begins, and all that it does up to the end of a script. -/
def session (r : Relay) (script : List Event) : Relay × Traffic :=
  let (begun, first) := r.settle
  let (after, rest) := begun.run script
  (after, first.followedBy rest)

end Relay

end Carrier
