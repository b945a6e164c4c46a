import Carrier.Dial.Plan
import Carrier.Dial.Timed
import Carrier.Dial.Trust
import Carrier.Log
import Carrier.Relay.Basic

/-!
# Dialing

A dial connects to the origin, agrees on TLS if the URL asks for it, and has the connection
upgraded. One span of time is allowed for all of it.

- `Origin`: what the origin and the network do.
- `Dialer`, `Dialer.trusting`: what every dial of a process shares.
- `Dialer.approach`, `Dialer.attempt`: the stages of a dial and how long they take.
- `Dialer.dial`: what a dial comes to within the time allowed.
- `Dialer.inTime`: whether it comes to its end by then.
- `Dialer.sent?`: the request that is sent within the time allowed.

These are `new`, `connect` and `dial` of the program's `TungsteniteDialer`, `handshake_error`, and
the client's part of a handshake in `tungstenite`.
-/

namespace Carrier

/-- How the writes of an answer end. -/
inductive AnswerEnd where
  /-- No more comes. -/
  | silence
  /-- The connection is closed. -/
  | close (wait : Duration)
  /-- Reading fails. -/
  | failed (wait : Duration) (fault : IoFault)
  deriving DecidableEq, Repr

/-- What the origin and the network do. -/
structure Origin where
  /-- Whether the connection is taken. -/
  connect : DialAddress → Timed (Except IoFault Unit)
  /-- Whether TLS is agreed on, or why not. -/
  agree : TlsTerms → Timed (Except String Unit)
  /-- The writes of the answer, each after a wait. -/
  writes : List (Duration × Bytes)
  /-- What follows them. -/
  last : AnswerEnd

/-- What every dial of a process shares. -/
structure Dialer where
  /-- The time allowed for a dial. -/
  timeout : Duration := Duration.seconds 30
  /-- How long frames and messages of a WebSocket may be. -/
  limits : Limits := ⟨16 * 1024 * 1024, 16 * 1024 * 1024⟩
  /-- What servers' certificates may be signed with, beside what is trusted anyway. -/
  roots : List RootCertificate := []

/-- A dialer that trusts more certificates, all of which can be read. -/
def Dialer.trusting (d : Dialer) (roots : List RootCertificate) : Except DialError Dialer :=
  (RootCertificate.check roots).map fun _ => { d with roots := d.roots ++ roots }

/-- A WebSocket that has been dialed. -/
structure Established where
  /-- The URL it was dialed with. -/
  url : Url
  /-- The request that was sent. -/
  request : SentRequest
  /-- What has come after the answer. -/
  early : Bytes
  deriving DecidableEq, Repr

/-- The record that a WebSocket is there. -/
def Established.record (e : Established) : LogRecord where
  level := .info
  message := "Carrier WebSocket established"
  fields := [("url", e.url.href)]

/-! ### The answer -/

namespace Arrival

/-- What the pieces of a write come to: an answer and what follows it, a fault, or nothing yet. -/
def takePieces (a : Arrival) : List Bytes → Except UpgradeFault (Arrival ⊕ UpgradeAnswer × Bytes)
  | [] => .ok (.inl a)
  | piece :: rest =>
    let a := a.add piece
    if a.isAttack then .error .attack
    else
      match UpgradeAnswer.read a.octets with
      | .refused fault => .error (.malformed fault)
      | .found answer after => .ok (.inr (answer, after ++ rest.flatten))
      | .unfinished => takePieces a rest

/-- The answer that writes make up and what follows it in the last of them, and how long it
takes. -/
def listen (a : Arrival) (last : AnswerEnd) :
    List (Duration × Bytes) → Timed (Except UpgradeFault (UpgradeAnswer × Bytes))
  | [] =>
    match last with
    | .silence => .never
    | .close wait => .after wait (.error .unfinished)
    | .failed wait fault => .after wait (.error (.io fault))
  | (wait, bytes) :: rest =>
    match a.takePieces (Bytes.pieces pieceSize bytes) with
    | .error fault => .after wait (.error fault)
    | .ok (.inr (answer, early)) =>
      .after wait (.ok (answer, early))
    | .ok (.inl a) => (listen a last rest).later wait

end Arrival

/-! ### The stages -/

namespace Dialer

/-- A stage that fails with a cause of its own. -/
def stage {ε α : Type} (cause : ε → DialError) (x : Timed (Except ε α)) :
    Timed (Except DialError α) :=
  match x with
  | .never => .never
  | .after wait result => .after wait (result.mapError cause)

/-- Has TLS agreed on, if it is used. -/
def secure (origin : Origin) : Option TlsTerms → Timed (Except DialError Unit)
  | none => .now (.ok ())
  | some terms =>
    stage (fun reason => .tls ("TLS handshake failed: " ++ reason)) (origin.agree terms)

/-- Has the connection upgraded. -/
def upgrade (origin : Origin) (url : Url) (request : SentRequest) :
    Timed (Except DialError Established) :=
  (stage UpgradeFault.dialError (Arrival.listen {} origin.last origin.writes)).andThen
    fun (answer, early) =>
      match answer.judge request.accept request.subprotocols with
      | .error fault => .now (.error fault.dialError)
      | .ok _ => .now (.ok ⟨url, request, early⟩)

/-- The stages in front of the upgrade: the URL, and the request that is sent. -/
def approach (options : DialOptions) (key : HeaderValue) (origin : Origin) :
    Timed (Except DialError (Url × SentRequest)) :=
  match options.webSocketUrl with
  | .error cause => .now (.error (.setup cause))
  | .ok url =>
    Timed.now (DialOptions.address url) |>.andThen fun address =>
      stage (.connect address.shown) (origin.connect address) |>.andThen fun _ =>
        Timed.now (options.tlsTerms url) |>.andThen fun terms =>
          (secure origin terms).andThen fun _ =>
            Timed.now ((options.request url key).map fun request => (url, request))

/-- The stages of a dial, one after the other, and how long they take. -/
def attempt (options : DialOptions) (key : HeaderValue) (origin : Origin) :
    Timed (Except DialError Established) :=
  (approach options key origin).andThen fun (url, request) => upgrade origin url request

/-- What a dial comes to. -/
def dial (d : Dialer) (options : DialOptions) (key : HeaderValue) (origin : Origin) :
    Except DialError Established :=
  match options.validate with
  | .error cause => .error (.setup cause)
  | .ok _ =>
    match (attempt options key origin).within d.timeout with
    | some result => result
    | none => .error (.timeout options.origin d.timeout)

/-- Whether a dial comes to its end before the time for it is over. -/
def inTime (d : Dialer) (options : DialOptions) (key : HeaderValue) (origin : Origin) : Bool :=
  ((attempt options key origin).within d.timeout).isSome

/-- The request that is sent, whatever is answered; none where a stage in front of it fails or
takes too long. -/
def sent? (d : Dialer) (options : DialOptions) (key : HeaderValue) (origin : Origin) :
    Option SentRequest :=
  match (approach options key origin).within d.timeout with
  | some (.ok (_, request)) => some request
  | _ => none

end Dialer

end Carrier
