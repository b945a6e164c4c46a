import Carrier.Bytes
import Carrier.WebSocket.Fault

/-!
# WebSocket frames

- `Opcode`: the kinds of frames.
- `Frame`: a frame that is sent, with its payload in the clear.
- `WireFrame`: a frame as it is written, with reserved bits, any opcode and a mask.
- `WireFrame.ofFrame`: a frame that is sent, under a mask.
- `WireFrame.encode`: the octets of a frame.
- `WireFrame.read`: the frame that octets begin with, or what is wrong with it, or that more octets
  are needed. An unknown opcode or a payload over the limit is noticed as soon as the header is
  complete.

These are the frames of `tungstenite`.
-/

namespace Carrier

/-- The kinds of frames. -/
inductive Opcode where
  | continuation
  | text
  | binary
  | close
  | ping
  | pong
  deriving DecidableEq, Repr

/-- The number of a kind. -/
def Opcode.code : Opcode → Nat
  | .continuation => 0
  | .text => 1
  | .binary => 2
  | .close => 8
  | .ping => 9
  | .pong => 10

/-- The kind that a number stands for. -/
def Opcode.ofCode? : Nat → Option Opcode
  | 0 => some .continuation
  | 1 => some .text
  | 2 => some .binary
  | 8 => some .close
  | 9 => some .ping
  | 10 => some .pong
  | _ => none

/-- Whether frames of a kind may stand between the fragments of a message. -/
def Opcode.isControl : Opcode → Bool
  | .close | .ping | .pong => true
  | _ => false

/-- A frame that is sent. The sender masks it with a key of its own. -/
structure Frame where
  /-- Whether the message ends with this frame. -/
  fin : Bool
  /-- The kind of the frame. -/
  opcode : Opcode
  /-- What it carries. -/
  payload : Bytes
  deriving DecidableEq, Repr

/-- A frame that is a whole message. -/
def Frame.whole (opcode : Opcode) (payload : Bytes) : Frame := ⟨true, opcode, payload⟩

/-- A frame as it is written. -/
structure WireFrame where
  /-- Whether the message ends with this frame. -/
  fin : Bool
  /-- The three bits that have no meaning. -/
  reserved : Nat
  /-- The number of the kind. -/
  code : Nat
  /-- The key of the mask. -/
  mask : Option Bytes
  /-- The payload as it is written, which is masked if there is a key. -/
  payload : Bytes
  deriving DecidableEq, Repr

namespace WireFrame

/-- A payload under a mask; masking twice gives the payload back. -/
def maskWith (key : Bytes) (payload : Bytes) : Bytes :=
  payload.zipIdx.map fun (b, i) => b ^^^ key.getD (i % 4) 0

/-- The octets of a length, after the one that holds its format. -/
def lengthOctets (n : Nat) : Nat × Bytes :=
  if n < 126 then (n, [])
  else if n < 65536 then (126, Bytes.bigEndian 2 n)
  else (127, Bytes.bigEndian 8 n)

/-- The octets of a frame. -/
def encode (f : WireFrame) : Bytes :=
  let (format, length) := lengthOctets f.payload.length
  UInt8.ofNat ((if f.fin then 128 else 0) + f.reserved % 8 * 16 + f.code % 16) ::
    UInt8.ofNat ((if f.mask.isSome then 128 else 0) + format) ::
      (length ++ f.mask.getD [] ++ f.payload)

/-- A frame that is sent, under a mask. -/
def ofFrame (key : Bytes) (f : Frame) : WireFrame :=
  ⟨f.fin, 0, f.opcode.code, some key, maskWith key f.payload⟩

/-- How many octets of length follow the one that holds its format. -/
def lengthWidth (format : Nat) : Nat :=
  if format = 126 then 2 else if format = 127 then 8 else 0

/-- What octets begin with. -/
inductive Reading where
  /-- More octets are needed. -/
  | incomplete
  /-- The frame cannot be read. -/
  | refused (fault : SocketFault)
  /-- A frame, and the octets after it. -/
  | frame (f : WireFrame) (rest : Bytes)
  deriving DecidableEq, Repr

/-- Reads the payload after a complete header. -/
def readPayload (limit : Nat) (first : Nat) (mask : Option Bytes) (length : Nat) (bytes : Bytes) :
    Reading :=
  let code := first % 16
  if (Opcode.ofCode? code).isNone then .refused (.protocol (.invalidOpcode code))
  else if limit < length then .refused (.tooLong length limit)
  else
    match Bytes.split? length bytes with
    | none => .incomplete
    | some (payload, rest) =>
      .frame ⟨decide (128 ≤ first), first / 16 % 8, code, mask, payload⟩ rest

/-- Reads the frame that octets begin with; its payload may have up to `limit` octets. -/
def read (limit : Nat) : Bytes → Reading
  | first :: second :: bytes =>
    let format := second.toNat % 128
    match Bytes.split? (lengthWidth format) bytes with
    | none => .incomplete
    | some (lengthBytes, bytes) =>
      let length := if lengthWidth format = 0 then format else Bytes.number lengthBytes
      if second.toNat < 128 then readPayload limit first.toNat none length bytes
      else
        match Bytes.split? 4 bytes with
        | none => .incomplete
        | some (key, bytes) => readPayload limit first.toNat (some key) length bytes
  | _ => .incomplete

theorem readPayload_shorter {limit first length : Nat} {mask : Option Bytes} {bytes rest : Bytes}
    {f : WireFrame} (h : readPayload limit first mask length bytes = .frame f rest) :
    rest.length ≤ bytes.length := by
  simp only [readPayload] at h
  split at h
  · simp at h
  · split at h
    · simp at h
    · split at h
      · simp at h
      · rename_i hs
        simp only [Reading.frame.injEq] at h
        exact h.2 ▸ Bytes.split?_length hs

/-- A frame that is read leaves fewer octets. -/
theorem read_shorter {limit : Nat} {bytes rest : Bytes} {f : WireFrame}
    (h : read limit bytes = .frame f rest) : rest.length < bytes.length := by
  unfold read at h
  split at h
  · simp only at h
    split at h
    · simp at h
    · rename_i hs
      have h₁ := Bytes.split?_length hs
      split at h
      · have h₂ := readPayload_shorter h
        simp only [List.length_cons]
        omega
      · split at h
        · simp at h
        · rename_i hk
          have h₂ := Bytes.split?_length hk
          have h₃ := readPayload_shorter h
          simp only [List.length_cons]
          omega
  · simp at h

end WireFrame

end Carrier
