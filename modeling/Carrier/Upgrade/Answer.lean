import Carrier.Bytes
import Carrier.DialError
import Carrier.IoFault
import Carrier.Text.Decimal

/-!
# The answer to an upgrade request

- `UpgradeAnswer`: status and headers of an answer.
- `UpgradeAnswer.read`: the answer at the beginning of what has come, if it is complete.
- `UpgradeFault`: why there is no upgrade.
- `UpgradeAnswer.judge`: whether an answer is an upgrade.
- `Arrival`: the counts by which an answer in too many or too small pieces is given up.

This is how the client's handshake in `tungstenite` reads and judges answers and keeps the counts.
-/

namespace Carrier

/-! ### Faults -/

/-- What is wrong with the text of an answer. -/
inductive AnswerFault where
  | headerName
  | headerValue
  | lineEnd
  | status
  | tooManyHeaders
  | version
  deriving DecidableEq, Repr

/-- The wording of a fault in the text of an answer. -/
def AnswerFault.message : AnswerFault → String
  | .headerName => "invalid header name"
  | .headerValue => "invalid header value"
  | .lineEnd => "invalid new line"
  | .status => "invalid response status"
  | .tooManyHeaders => "too many headers"
  | .version => "invalid HTTP version"

/-- Why there is no upgrade. -/
inductive UpgradeFault where
  /-- A header of the request cannot be sent. -/
  | unsendable
  /-- The transport failed. -/
  | io (fault : IoFault)
  /-- The answer comes in too many or too small pieces, or is too long. -/
  | attack
  /-- The transport ended before the answer was complete. -/
  | unfinished
  /-- The text of the answer is malformed. -/
  | malformed (fault : AnswerFault)
  /-- The version of the answer is too old. -/
  | oldVersion
  /-- The status is none. -/
  | noStatus
  /-- The answer is none of an upgrade. -/
  | rejected (status : Nat) (location : Option String)
  /-- A header is missing or wrong. -/
  | noUpgradeHeader
  /-- A header is missing or wrong. -/
  | noConnectionHeader
  /-- The challenge is not met. -/
  | wrongAccept
  /-- A protocol above was asked for, and none is answered. -/
  | noSubprotocol
  /-- A protocol above is answered that was not asked for. -/
  | unaskedSubprotocol
  /-- Another protocol above is answered than was asked for. -/
  | otherSubprotocol
  deriving DecidableEq, Repr

namespace UpgradeFault

/-- The wording of a fault other than a rejection. -/
def message : UpgradeFault → String
  | .unsendable => "UTF-8 encoding error"
  | .io fault => "IO error: " ++ fault.message
  | .attack => "Attack attempt detected"
  | .unfinished => protocol "Handshake not finished"
  | .malformed fault => protocol ("httparse error: " ++ fault.message)
  | .oldVersion => protocol "HTTP version must be 1.1 or higher"
  | .noStatus => "HTTP format error: invalid status code"
  | .rejected status _ => "HTTP error: " ++ toString status
  | .noUpgradeHeader => protocol "No \"Upgrade: websocket\" header"
  | .noConnectionHeader => protocol "No \"Connection: upgrade\" header"
  | .wrongAccept => protocol "Key mismatch in \"Sec-WebSocket-Accept\" header"
  | .noSubprotocol => protocol "SubProtocol error: Server sent no subprotocol"
  | .unaskedSubprotocol =>
    protocol "SubProtocol error: Server sent a subprotocol but none was requested"
  | .otherSubprotocol => protocol "SubProtocol error: Server sent an invalid subprotocol"
where
  /-- The wording of a fault against the protocol. -/
  protocol (what : String) : String := "WebSocket protocol error: " ++ what

/-- The error of a dial that ends with a fault. -/
def dialError : UpgradeFault → DialError
  | .rejected status location => .rejected status location
  | fault => .handshake fault.message

end UpgradeFault

/-! ### Reading -/

/-- What comes of reading at the beginning of some octets. -/
inductive Scanned (α : Type) where
  /-- More octets are needed. -/
  | unfinished
  /-- No octets that follow can mend it. -/
  | refused (fault : AnswerFault)
  /-- Something was read, and these octets follow it. -/
  | found (value : α) (rest : Bytes)
  deriving DecidableEq, Repr

/-- Goes on with what follows. -/
def Scanned.andThen {α β : Type} (s : Scanned α) (next : α → Bytes → Scanned β) : Scanned β :=
  match s with
  | .unfinished => .unfinished
  | .refused fault => .refused fault
  | .found value rest => next value rest

/-- Status and headers of an answer. -/
structure UpgradeAnswer where
  /-- Whether it is of the older version of the protocol. -/
  old : Bool
  /-- The three digits of the status. -/
  status : Nat
  /-- Names in lower case, and values. -/
  headers : List (String × Bytes)
  deriving DecidableEq, Repr

namespace UpgradeAnswer

/-- The line feed. -/
def lf : UInt8 := 10

/-- The carriage return. -/
def cr : UInt8 := 13

/-- Whether an octet is a space or a tab. -/
def isBlank (b : UInt8) : Bool := b == 32 || b == 9

/-- Octets of the name of a header. -/
def inName (b : UInt8) : Bool :=
  let c := Char.ofNat b.toNat
  c.isAlphanum || "!#$%&'*+-.^_`|~".toList.contains c

/-- Octets of values and of the reason for a status. -/
def inValue (b : UInt8) : Bool := b == 9 || (32 ≤ b && b != 127)

/-- Passes the rest of a line end. -/
def lineFeed (fault : AnswerFault) : Bytes → Scanned Unit
  | [] => .unfinished
  | b :: rest => if b == lf then .found () rest else .refused fault

/-- Passes empty lines. -/
def skipEmptyLines : Bytes → Scanned Unit
  | [] => .unfinished
  | [b] => if b == cr || b == lf then .unfinished else .found () [b]
  | b :: c :: rest =>
    if b == lf then skipEmptyLines (c :: rest)
    else if b == cr then
      if c == lf then skipEmptyLines rest else .refused .lineEnd
    else .found () (b :: c :: rest)

/-- The octets of an ASCII text. -/
def ascii (s : String) : Bytes := s.toList.map fun c => UInt8.ofNat c.toNat

/-- Whether the version is the older one, and the space after it. -/
def readVersion (bytes : Bytes) : Scanned Bool :=
  let name := bytes.take 8
  let after (old : Bool) : Scanned Bool :=
    match bytes.drop 8 with
    | [] => .unfinished
    | b :: rest => if b == 32 then .found old rest else .refused .version
  if name.length < 8 then
    if name.isPrefixOf (ascii "HTTP/1.") then .unfinished else .refused .version
  else if name = ascii "HTTP/1.1" then after false
  else if name = ascii "HTTP/1.0" then after true
  else .refused .version

/-- So many digits after a number. -/
def readDigits (acc : Nat) : Nat → Bytes → Scanned Nat
  | 0, bytes => .found acc bytes
  | _ + 1, [] => .unfinished
  | left + 1, b :: rest =>
    match Text.digitValue? (Char.ofNat b.toNat) with
    | some d => readDigits (acc * 10 + d) left rest
    | none => .refused .status

/-- Passes the reason for a status and the end of its line. -/
def skipReason : Bytes → Scanned Unit
  | [] => .unfinished
  | b :: rest =>
    if b == cr then lineFeed .status rest
    else if b == lf then .found () rest
    else if inValue b then skipReason rest
    else .refused .status

/-- Passes what follows a status in its line. -/
def skipStatusRest : Bytes → Scanned Unit
  | [] => .unfinished
  | b :: rest =>
    if b == 32 then skipReason rest
    else if b == cr then lineFeed .status rest
    else if b == lf then .found () rest
    else .refused .status

/-- The name of a header and the colon after it; `name` is what has been read of it, in
reverse. -/
def readName (name : Bytes) : Bytes → Scanned String
  | [] => .unfinished
  | b :: rest =>
    if inName b then readName (b :: name) rest
    else if b == 58 then
      .found (String.ofList (name.reverse.map fun b => (Char.ofNat b.toNat).toLower)) rest
    else .refused .headerName

/-- The value of a header without blanks at its ends, and the end of its line. -/
def readValue (value : Bytes) : Bytes → Scanned Bytes
  | [] => .unfinished
  | b :: rest =>
    let done := (value.dropWhile isBlank).reverse.dropWhile isBlank
    if b == cr then (lineFeed .headerValue rest).andThen fun _ rest => .found done rest
    else if b == lf then .found done rest
    else if inValue b then readValue (b :: value) rest
    else .refused .headerValue

/-- The most headers of an answer. -/
def mostHeaders : Nat := 124

/-- Reads headers up to the empty line after them; `left` is how many more there may be. -/
def readHeaders : Nat → List (String × Bytes) → Bytes → Scanned (List (String × Bytes))
  | _, _, [] => .unfinished
  | left, headers, b :: rest =>
    if b == cr then
      (lineFeed .lineEnd rest).andThen fun _ rest => .found headers.reverse rest
    else if b == lf then .found headers.reverse rest
    else if !inName b then .refused .headerName
    else
      (readName [] (b :: rest)).andThen fun name rest =>
        (readValue [] rest).andThen fun value rest =>
          match left with
          | 0 => .refused .tooManyHeaders
          | left + 1 => readHeaders left ((name, value) :: headers) rest

/-- The answer at the beginning of what has come. -/
def read (bytes : Bytes) : Scanned UpgradeAnswer :=
  (skipEmptyLines bytes).andThen fun _ rest =>
    (readVersion rest).andThen fun old rest =>
      (readDigits 0 3 rest).andThen fun status rest =>
        (skipStatusRest rest).andThen fun _ rest =>
          (readHeaders mostHeaders [] rest).andThen fun headers rest =>
            .found ⟨old, status, headers⟩ rest

/-! ### Judging -/

/-- The first value under a name. -/
def first? (a : UpgradeAnswer) (name : String) : Option Bytes := a.headers.lookup name

/-- A value as text, if it is visible ASCII with spaces and tabs. -/
def visible? (value : Bytes) : Option String :=
  if value.all fun b => b == 9 || (32 ≤ b && b < 127) then
    some (String.ofList (value.map fun b => Char.ofNat b.toNat))
  else none

/-- Whether the first value under a name is a text, in any case of its letters. -/
def announces (a : UpgradeAnswer) (name text : String) : Bool :=
  match (a.first? name).bind visible? with
  | some value => (String.ofList (value.toList.map Char.toLower)) == text
  | none => false

/-- Whether the protocols above agree: those asked for, and the one answered. -/
def subprotocolFault? (asked : Option (List String)) (answered : Option Bytes) :
    Option UpgradeFault :=
  match asked, answered with
  | some _, none => some .noSubprotocol
  | none, some _ => some .unaskedSubprotocol
  | none, none => none
  | some names, some value =>
    match visible? value with
    | none => some .unsendable
    | some name => if name ∈ names then none else some .otherSubprotocol

/-- Why an answer is no upgrade, given the answer to the challenge and the protocols above that
were asked for. -/
def fault? (accept : String) (asked : Option (List String)) (a : UpgradeAnswer) :
    Option UpgradeFault :=
  if a.old then some .oldVersion
  else if a.status < 100 then some .noStatus
  else if a.status ≠ 101 then some (.rejected a.status ((a.first? "location").bind visible?))
  else if !a.announces "upgrade" "websocket" then some .noUpgradeHeader
  else if !a.announces "connection" "upgrade" then some .noConnectionHeader
  else if a.first? "sec-websocket-accept" ≠ some (ascii accept) then some .wrongAccept
  else subprotocolFault? asked (a.first? "sec-websocket-protocol")

/-- Whether an answer is an upgrade. -/
def judge (accept : String) (asked : Option (List String)) (a : UpgradeAnswer) :
    Except UpgradeFault Unit :=
  match a.fault? accept asked with
  | some fault => .error fault
  | none => .ok ()

end UpgradeAnswer

/-! ### Pieces -/

/-- How an answer has come so far. -/
structure Arrival where
  /-- In how many pieces. -/
  pieces : Nat := 0
  /-- The octets. -/
  octets : Bytes := []
  deriving DecidableEq, Repr

namespace Arrival

/-- The most octets that one piece has. -/
def pieceSize : Nat := 4096

/-- One more piece. -/
def add (a : Arrival) (piece : Bytes) : Arrival := ⟨a.pieces + 1, a.octets ++ piece⟩

/-- Whether the answer is given up: it is longer than 65536 octets, or comes in more than 512
pieces, or in more than 64 that have less than 128 octets on average. -/
def isAttack (a : Arrival) : Bool :=
  decide (65536 < a.octets.length) || decide (512 < a.pieces) ||
    (decide (64 < a.pieces) && decide (a.octets.length < a.pieces * 128))

end Arrival

end Carrier
