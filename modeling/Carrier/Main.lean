import Carrier.Program.Run
import Std.Async.DNS
import Std.Async.Signal
import Std.Async.System
import Std.Async.TCP
import Std.Async.Timer
import Std.Sync.Channel

/-!
# The command line

What happens around the program is collected in one queue. Each entry is a step of `Program`; what
the step sends is handed to the streams it is for. Nothing is decided here.

TLS is not offered by this layer: an origin that needs it fails to agree on it.
-/

namespace Carrier.Live

open Std.Async

/-- A connection of TCP. -/
abbrev Socket := TCP.Socket.Client

/-- An event of the program, with the connection that it brings. -/
abbrev Happening := ProgramEvent × Option Socket

instance : Inhabited Happening := ⟨(.tunnel .interrupt, none)⟩

/-- The queue of what happens. -/
abbrev Queue := Std.Channel.Sync Happening

/-- Runs an action beside the others. -/
def start (action : Async Unit) : IO Unit := do
  let _ ← action.asTask

/-- Waits for a span of time. -/
partial def pause (span : Duration) : Async Unit := do
  let millis := span.nanos / 1000000
  if millis < 1000000000 then sleep (Std.Time.Millisecond.Offset.ofNat millis)
  else
    sleep (Std.Time.Millisecond.Offset.ofNat 1000000000)
    pause ⟨span.nanos - 1000000000 * 1000000⟩

/-! ### What the system tells -/

/-- Faults that the system reports in words. -/
def systemFaults : List SystemFault :=
  [.noSuchFile, .permissionDenied, .notADirectory, .isADirectory, .nameTooLong, .addressInUse,
    .addressNotAvailable, .networkUnreachable, .connectionReset, .connectionRefused]

/-- The fault that an error stands for. -/
def faultOf (e : IO.Error) : IoFault :=
  let text := Text.lowerAscii (toString e)
  match systemFaults.find? fun f => Text.contains (Text.lowerAscii f.wording) text with
  | some fault => .system fault
  | none => .bare .other

/-- What an action comes to. -/
def attempt {α : Type} (action : Async α) : Async (Except IoFault α) := do
  try
    return .ok (← action)
  catch e =>
    return .error (faultOf e)

/-- Octets of an array. -/
def octets (data : ByteArray) : Bytes := data.data.toList

/-- An array of octets. -/
def packed (bytes : Bytes) : ByteArray := ⟨bytes.toArray⟩

/-- The addresses of a host at a port. -/
def addresses (host : String) (port : Nat) : Async (List Std.Net.SocketAddress) := do
  let found ← DNS.getAddrInfo host ""
  return (found.toList.map fun
    | .v4 ip => .v4 ⟨ip, UInt16.ofNat port⟩
    | .v6 ip => .v6 ⟨ip, UInt16.ofNat port⟩).eraseDups

/-- A connection to the first address that takes one, or the last fault. -/
def connectAny (fault : IoFault) : List Std.Net.SocketAddress → Async (Except IoFault Socket)
  | [] => return .error fault
  | address :: rest => do
    let socket ← TCP.Socket.Client.mk
    match ← attempt (socket.connect address) with
    | .ok _ => return .ok socket
    | .error fault => connectAny fault rest

/-- A connection to a host; it is told when the host has been looked up. -/
def connectTo (a : DialAddress) (lookedUp : IO Unit) : Async (Except IoFault Socket) := do
  let found ← attempt (addresses a.host a.port)
  lookedUp
  match found with
  | .error _ => return .error .unknownHost
  | .ok found => connectAny .unknownHost found

/-! ### Streams -/

/-- What takes octets, one write after the other, until it is told to end. -/
structure Outlet where
  /-- The writes, and `none` for the end. -/
  writes : Std.Channel (Option Bytes)
  /-- Ends after the last write. -/
  done : AsyncTask Unit

/-- Writes what is handed over. -/
partial def drain (writes : Std.Channel (Option Bytes)) (write : ByteArray → Async Unit)
    (finish : Async Unit) : Async Unit := do
  match ← Async.ofTask (← writes.recv) with
  | some bytes =>
    write (packed bytes)
    drain writes write finish
  | none => finish

namespace Outlet

/-- A new outlet. A write that fails is told. -/
def make (write : ByteArray → Async Unit) (finish : Async Unit) (failed : IoFault → IO Unit) :
    IO Outlet := do
  let writes ← Std.Channel.new
  let action : Async Unit := do
    match ← attempt (drain writes write finish) with
    | .ok _ => pure ()
    | .error fault => failed fault
  return ⟨writes, ← action.asTask⟩

/-- Hands octets to an outlet. -/
def put (o : Outlet) (bytes : Bytes) : IO Unit := do
  let _ ← o.writes.send (some bytes)

/-- Tells an outlet that nothing follows. -/
def close (o : Outlet) : IO Unit := do
  let _ ← o.writes.send none

/-- An outlet to a connection. -/
def ofSocket (socket : Socket) (failed : IoFault → IO Unit) : IO Outlet :=
  make socket.send socket.shutdown failed

/-- An outlet to standard output. -/
def ofOutput (failed : IoFault → IO Unit) : IO Outlet := do
  let output ← IO.getStdout
  let write (data : ByteArray) : IO Unit := do
    output.write data
    output.flush
  make (fun data => write data) (pure ()) failed

end Outlet

/-- Reads until the end and tells what is read. -/
partial def readAll (read : Async (Option ByteArray)) (tell : Bytes → IO Unit)
    (ended : Except IoFault Unit → IO Unit) : Async Unit := do
  match ← attempt read with
  | .error fault => ended (.error fault)
  | .ok none => ended (.ok ())
  | .ok (some data) =>
    tell (octets data)
    readAll read tell ended

/-- Reads from a connection. -/
def readSocket (socket : Socket) : Async (Option ByteArray) :=
  socket.recv? (UInt64.ofNat chunkSize)

/-- What gives octets until it is told to stop. -/
structure Inlet where
  /-- The octets that come next; nothing at the end. -/
  read : Async (Option ByteArray)
  /-- Stops; a read that has begun goes on. -/
  stop : IO Unit

/-- Hands over a stream octet by octet, and `none` at its end. -/
partial def feed (input : IO.FS.Stream) (out : Std.Channel (Option UInt8))
    (stopped : IO.Ref Bool) : IO Unit := do
  match octets (← input.read 1) with
  | [] =>
    let _ ← out.send none
  | octet :: _ =>
    let _ ← out.send (some octet)
    unless ← stopped.get do feed input out stopped

/-- Adds the octets that are there already, up to a chunk. -/
partial def collect (source : Std.Channel (Option UInt8)) (front : ByteArray) :
    BaseIO ByteArray := do
  if chunkSize ≤ front.size then return front
  match ← source.tryRecv with
  | some (some octet) => collect source (front.push octet)
  | some none =>
    let _ ← source.send none
    return front
  | none => return front

namespace Inlet

/-- An inlet from a connection. -/
def ofSocket (socket : Socket) : Inlet := ⟨readSocket socket, pure ()⟩

/-- An inlet from standard input, from which nothing is read before the first octets are asked
for. -/
def ofInput : IO Inlet := do
  let source ← Std.Channel.new
  let stopped ← IO.mkRef false
  let asked ← IO.mkRef false
  let read : Async (Option ByteArray) := do
    unless ← asked.get do
      asked.set true
      let input ← IO.getStdin
      let _ ← IO.asTask (feed input source stopped) Task.Priority.dedicated
    match ← Async.ofTask (← source.recv) with
    | some octet => return some (← collect source (packed [octet]))
    | none => return none
  return ⟨read, stopped.set true⟩

end Inlet

/-! ### Dialing -/

/-- An origin of which nothing is known but how it took the connection. -/
def originAt (taken : Except IoFault Unit) : Origin where
  connect _ := .now taken
  agree _ := .now (.error "TLS is not available")
  writes := []
  last := .silence

/-- An origin that does not answer. -/
def silent : Origin := { originAt (.ok ()) with connect := fun _ => .never }

/-- Reads until what is known of an origin decides the dial. -/
partial def listen (dialer : Dialer) (options : DialOptions) (key : HeaderValue) (socket : Socket)
    (origin : Origin) : Async Origin := do
  match dialer.dial options key origin with
  | .error (.timeout ..) =>
    match ← attempt (readSocket socket) with
    | .error fault => return { origin with last := .failed ⟨0⟩ fault }
    | .ok none => return { origin with last := .close ⟨0⟩ }
    | .ok (some data) =>
      listen dialer options key socket
        { origin with writes := origin.writes ++ [(⟨0⟩, octets data)] }
  | _ => return origin

/-- A challenge that nobody can guess. -/
def challenge : IO HeaderValue := do
  let text := String.ofList (Base64.encode (octets (← IO.getRandomBytes 16)))
  return (HeaderValue.parse? text).getD ⟨"", false, by decide +kernel⟩

/-- Dials, and tells what is known of the origin in the end. -/
def dial (dialer : Dialer) (options : DialOptions) (key : HeaderValue) (lookedUp : IO Unit) :
    Async (Origin × Option Socket) := do
  match options.webSocketUrl.toOption.map DialOptions.address with
  | some (.ok address) =>
    match ← connectTo address lookedUp with
    | .error fault => return (originAt (.error fault), none)
    | .ok socket =>
      let origin := originAt (.ok ())
      match dialer.sent? options key origin with
      | none => return (origin, none)
      | some request =>
        socket.send request.written.toUTF8
        return (← listen dialer options key socket origin, some socket)
  | _ => return (silent, none)

/-- Dials beside the others, and tells when the host has been looked up and when the time for the
dial is over. -/
def startDial (queue : Queue) (dialer : Dialer) (options : DialOptions)
    (event : HeaderValue → Origin → ProgramEvent) (lookedUp : IO Unit) : IO Unit := do
  let key ← challenge
  start do
    match ← attempt (dial dialer options key lookedUp) with
    | .ok (origin, socket) => queue.send (event key origin, socket)
    | .error fault => queue.send (event key (originAt (.error fault)), none)
  start do
    pause dialer.timeout
    queue.send (event key silent, none)

/-! ### Connections -/

/-- Where the two sides of a connection are written to and read from. -/
structure Ends where
  /-- Takes what is for the application. -/
  toLocal : Outlet
  /-- Gives what the application writes. -/
  fromLocal : Inlet
  /-- Takes what is for the other end. -/
  toRemote : Option Outlet

/-- The connections, by listener and position. -/
abbrev Connections := List ((Nat × Nat) × Ends)

/-- An event of a relay. -/
def relayEvent (program : Program) (listener connection : Nat) (e : Event) : ProgramEvent :=
  match program with
  | .listening _ => .listening (.relay listener connection e)
  | _ => .tunnel (.relay e)

/-- Begins to read both sides of a connection that has a WebSocket, and to count its time. -/
def startRelay (queue : Queue) (program : Program) (place : Nat × Nat) (relay : Relay)
    (socket : Socket) (ends : Ends) : IO Ends := do
  let tell (e : Event) : IO Unit := queue.send (relayEvent program place.1 place.2 e, none)
  start <| readAll ends.fromLocal.read (fun data => tell (.localWrite data)) fun
    | .ok _ => tell (.localEnd .eof)
    | .error fault => tell (.localEnd (.failed fault))
  start <| readAll (readSocket socket) (fun data => tell (.remoteBytes data)) fun _ =>
    tell .remoteDrop
  if let some limit := relay.deadline then
    start do
      pause limit
      tell (.advance limit)
  let outlet ← Outlet.ofSocket socket fun _ => tell .remoteDrop
  return { ends with toRemote := some outlet }

namespace Ends

/-- Hands what a step sends to the sides of a connection. -/
def deliver (ends : Ends) (traffic : Traffic) : IO Unit := do
  if let some outlet := ends.toRemote then
    for frame in traffic.frames do
      outlet.put (WireFrame.ofFrame (octets (← IO.getRandomBytes 4)) frame).encode
  for piece in traffic.writes do
    ends.toLocal.put piece

/-- Ends both sides of a connection. -/
def close (ends : Ends) : IO Unit := do
  ends.fromLocal.stop
  ends.toLocal.close
  if let some outlet := ends.toRemote then outlet.close

/-- Waits until all has been written. -/
def wait (ends : Ends) : IO Unit := do
  let _ ← IO.wait ends.toLocal.done
  if let some outlet := ends.toRemote then
    let _ ← IO.wait outlet.done

end Ends

/-! ### Running -/

/-- Shows records up to a level. -/
def showRecords (level : Nat) (records : List LogRecord) : IO Unit :=
  for record in records do
    if record.level.rank ≤ level then IO.eprintln record.line

/-- The relay that has just begun, if an event was the end of a dial. -/
def begun? (before after : Program) (e : ProgramEvent) : Option ((Nat × Nat) × Relay) :=
  let place := match e with
    | .tunnel (.dial ..) => some (0, 0)
    | .listening (.dial listener connection ..) => some (listener, connection)
    | _ => none
  place.bind fun (listener, connection) =>
    match before.relay? listener connection, after.relay? listener connection with
    | none, some relay => some ((listener, connection), relay)
    | _, _ => none

/-- The listener that has just accepted a connection, and the position of the connection. -/
def accepted? (before after : Program) : ProgramEvent → Option (Nat × Nat × Forwarder)
  | .listening (.connect listener) =>
    match before, after with
    | .listening p, .listening q =>
      match p.forwarders[listener]?, q.forwarders[listener]? with
      | some f, some g =>
        if f.connections.length < g.connections.length then
          some (listener, f.connections.length, g)
        else none
      | _, _ => none
    | _, _ => none
  | _ => none

/-- Whether the relay of a connection has ended. -/
def hasEnded (program : Program) (listener connection : Nat) : Bool :=
  ((program.relay? listener connection).bind (·.cause)).isSome

/-- The connections after a step that may have brought a connection or a WebSocket. -/
def arrange (queue : Queue) (dialer : Dialer) (before after : Program) (happening : Happening)
    (all : Connections) : IO Connections := do
  let (event, some socket) := happening | return all
  if let some (listener, connection, f) := accepted? before after event then
    let failed (fault : IoFault) : IO Unit :=
      queue.send (.listening (.relay listener connection (.localWriteFault fault)), none)
    startDial queue dialer f.options (fun key origin =>
      .listening (.dial listener connection key origin))
      (queue.send (.listening (.lookedUp listener connection), none))
    let outlet ← Outlet.ofSocket socket failed
    return ((listener, connection), ⟨outlet, .ofSocket socket, none⟩) :: all
  match begun? before after event with
  | some (place, relay) =>
    match all.lookup place with
    | some ends =>
      let ends ← startRelay queue after place relay socket ends
      return (place, ends) :: all.filter (·.1 != place)
    | none => return all
  | none => return all

/-- Takes what happens from the queue until the program ends. -/
partial def run (queue : Queue) (dialer : Dialer) (level : Nat) (program : Program)
    (all : Connections) : IO ProgramExit := do
  match program.exit? with
  | some exit =>
    for (place, ends) in all do
      if hasEnded program place.1 place.2 then ends.wait
    return exit
  | none =>
    let happening ← queue.recv
    let (after, output) := program.step happening.1
    showRecords level output.logs
    let all ← arrange queue dialer program after happening all
    for (listener, connection, traffic) in output.traffic do
      if let some ends := all.lookup (listener, connection) then
        ends.deliver traffic
        if hasEnded after listener connection && !hasEnded program listener connection then
          ends.close
    run queue dialer level after all

/-- Tells each interrupt. -/
partial def watch (waiter : Signal.Waiter) (tell : IO Unit) : Async Unit := do
  let _ ← Async.ofAsyncTask (← waiter.wait)
  tell
  watch waiter tell

/-- Tells each connection that a listener takes. -/
partial def accept (queue : Queue) (server : TCP.Socket.Server) (listener : Nat) : Async Unit := do
  match ← attempt server.accept with
  | .ok socket => queue.send (.listening (.connect listener), some socket)
  | .error fault => queue.send (.listening (.acceptFault listener fault), none)
  accept queue server listener

/-- A listener of the system on an address. -/
def serve (a : SocketAddress) : Async (Except IoFault TCP.Socket.Server) := do
  match ← attempt (addresses a.host a.port) with
  | .error _ | .ok [] => return .error .unknownHost
  | .ok (address :: _) =>
    attempt do
      let server ← TCP.Socket.Server.mk
      server.bind address
      server.listen 1024
      return server

/-- What the system has told of hosts and ports. -/
structure Told where
  /-- The addresses of hosts. -/
  hosts : List (String × Except IoFault (List String)) := []
  /-- Addresses that were refused where others were bound, and why. -/
  refusals : List ((List SocketAddress × SocketAddress) × IoFault) := []

namespace Told

/-- The system as far as it has told; where it has not, it is assumed that nothing is in the way. -/
def system (t : Told) : System where
  resolve host := (t.hosts.lookup host).getD (System.free.resolve host)
  refuses bound a := t.refusals.lookup (bound, a)

/-- Asks for the addresses of a host. -/
def ask (t : Told) (host : String) : IO Told := do
  match ← (attempt (DNS.getAddrInfo host "")).block with
  | .error _ => return { t with hosts := (host, .error .unknownHost) :: t.hosts }
  | .ok found =>
    let names := (found.toList.map toString).eraseDups
    let itself := names.map fun name => (name, .ok [name])
    return { t with hosts := (host, .ok names) :: itself ++ t.hosts }

end Told

/-- The program after it has begun, and its listeners, the first of which are there. Where the
system tells something about the next one, the program begins again and knows it. -/
partial def launch (dialer : Dialer) (s : Surroundings) (told : Told)
    (servers : List TCP.Socket.Server) :
    IO (Program × List LogRecord × List TCP.Socket.Server) := do
  let (program, records) := Program.start dialer { s with system := told.system }
  let .listening p := program | return (program, records, [])
  match p.forwarders.drop servers.length with
  | [] => return (program, records, servers)
  | f :: _ =>
    if (told.hosts.lookup f.address.host).isNone then
      launch dialer s (← told.ask f.address.host) servers
    else
      match ← (serve f.address).block with
      | .ok server => launch dialer s told (servers ++ [server])
      | .error fault =>
        let bound := (p.forwarders.take servers.length).reverse.map (·.address)
        let refusals := ((bound, f.address), fault) :: told.refusals
        launch dialer s { told with refusals } servers

/-- What the program finds when it begins. -/
def surroundings (arguments : List String) : IO Surroundings := do
  let environment ← System.getEnv
  let s : Surroundings :=
    { arguments := arguments
      environment := environment.get?
      files := fun _ => .error (.system .noSuchFile)
      system := System.free }
  match Launch.configPath? s with
  | none => return s
  | some path =>
    let content ← (attempt (IO.FS.readBinFile path)).block
    return { s with files := fun _ => content.map octets }

/-- Watches for interrupts, and begins what the program is there for. -/
def begin (queue : Queue) (dialer : Dialer) (program : Program)
    (servers : List TCP.Socket.Server) : IO Connections := do
  let watchFor (event : ProgramEvent) : IO Unit := do
    let waiter ← Signal.Waiter.mk .sigint true
    start (watch waiter (queue.send (event, none)))
  match program with
  | .failed _ => return []
  | .listening _ =>
    watchFor (.listening .interrupt)
    for (server, listener) in servers.zipIdx do
      start (accept queue server listener)
    return []
  | .tunnel p =>
    watchFor (.tunnel .interrupt)
    if p.exit?.isNone then
      startDial queue dialer p.tunnel.options (fun key origin => .tunnel (.dial key origin))
        (pure ())
    let failed (fault : IoFault) : IO Unit :=
      queue.send (.tunnel (.relay (.localWriteFault fault)), none)
    return [((0, 0), ⟨← Outlet.ofOutput failed, ← Inlet.ofInput, none⟩)]

/-- What is shown on request: what the program is for, its commands and their options. -/
def help : String :=
  let line (name : String) (spec : CommandSpec) : String :=
    " ".intercalate (UsageFault.programName :: name :: spec.options.map (·.shown))
  "\n".intercalate
    [ProgramFault.purpose, line "ssh" Invocation.ssh, line "forward" Invocation.forward]

/-- Shows help or the version where a program has been asked for it. -/
def showAsked : Program → IO Unit
  | .failed (.usage .helpAsked) => IO.println help
  | .failed (.usage .versionAsked) => IO.println UsageFault.programName
  | _ => pure ()

/-- Runs the program until it ends. -/
def runAll (arguments : List String) : IO ProgramExit := do
  let s ← surroundings arguments
  let dialer : Dialer := {}
  let level := Launch.shownLevel s
  let (program, records, servers) ← launch dialer s {} []
  showRecords level records
  showAsked program
  let queue ← Std.Channel.Sync.new
  run queue dialer level program (← begin queue dialer program servers)

end Carrier.Live

/-- The command line. -/
def main (arguments : List String) : IO UInt32 := do
  let exit ← Carrier.Live.runAll arguments
  IO.eprint exit.report
  return UInt32.ofNat exit.code
