/-!
# UTF-8, one octet at a time

- `Utf8.State`: what may follow the octets read so far.
- `Utf8.step`: one octet; `none` when no text can begin this way.
- `Utf8.feed`: a run of octets, giving the characters they complete.
- `Utf8.decode?`: a whole text.

The bounds kept in a state rule out overlong forms, surrogates and values above the
last code point as soon as their second octet is read, so an octet string is refused at the
first octet that no well-formed text has there.
-/

namespace Carrier

namespace Utf8

/-- What may follow the octets read so far. -/
inductive State where
  /-- A character may begin, or the text may end. -/
  | boundary
  /-- The next octet lies in `lo … hi`, and `left` more follow it; `value` holds the bits
  read so far. -/
  | inside (left lo hi value : Nat)
  deriving DecidableEq, Repr

/-- One octet: the state after it and the character that it completes. -/
def step : State → UInt8 → Option (State × Option Char)
  | .boundary, b =>
    let n := b.toNat
    if n < 0x80 then some (.boundary, some (Char.ofNat n))
    else if n < 0xC2 then none
    else if n < 0xE0 then some (.inside 0 0x80 0xBF (n - 0xC0), none)
    else if n = 0xE0 then some (.inside 1 0xA0 0xBF 0, none)
    else if n = 0xED then some (.inside 1 0x80 0x9F 0xD, none)
    else if n < 0xF0 then some (.inside 1 0x80 0xBF (n - 0xE0), none)
    else if n = 0xF0 then some (.inside 2 0x90 0xBF 0, none)
    else if n < 0xF4 then some (.inside 2 0x80 0xBF (n - 0xF0), none)
    else if n = 0xF4 then some (.inside 2 0x80 0x8F 4, none)
    else none
  | .inside left lo hi value, b =>
    let n := b.toNat
    if n < lo ∨ hi < n then none
    else
      let value := value * 64 + n % 64
      match left with
      | 0 => some (.boundary, some (Char.ofNat value))
      | left + 1 => some (.inside left 0x80 0xBF value, none)

/-- A run of octets: the state after them and the characters they complete. -/
def feed (acc : List Char) : State → List UInt8 → Option (State × List Char)
  | s, [] => some (s, acc.reverse)
  | s, b :: bs =>
    match step s b with
    | none => none
    | some (s', none) => feed acc s' bs
    | some (s', some c) => feed (c :: acc) s' bs

/-- The state after a run of octets, where only well-formedness matters. -/
def check : State → List UInt8 → Option State
  | s, [] => some s
  | s, b :: bs =>
    match step s b with
    | none => none
    | some (s', _) => check s' bs

/-- The characters of a whole text. -/
def decode? (bytes : List UInt8) : Option (List Char) :=
  match feed [] .boundary bytes with
  | some (.boundary, cs) => some cs
  | _ => none

/-- The octets of a text. -/
def encode (cs : List Char) : List UInt8 :=
  cs.flatMap String.utf8EncodeChar

end Utf8

end Carrier
