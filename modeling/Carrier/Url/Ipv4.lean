import Carrier.Text.Decimal
import Carrier.Text.Search

/-!
# IPv4 addresses

- `Ipv4`: an address of 32 bits.
- `Ipv4.looksNumeric`: whether a host is to be read as an address.
- `Ipv4.parse?`: the number forms `a.b.c.d`, `a.b.c`, `a.b` and `a`, each part decimal, octal
  (`0…`) or hexadecimal (`0x…`), the last one filling the octets that are left.
- `Ipv4.shown`: four decimal numbers.
-/

namespace Carrier

/-- An IPv4 address. -/
structure Ipv4 where
  /-- The address as one number of 32 bits. -/
  value : Nat
  /-- It has no more than 32 bits. -/
  bounded : value < 4294967296
  deriving DecidableEq, Repr

namespace Ipv4

/-- A part of an address: its digits in the base that its first characters name. -/
def readPart? : List Char → Option Nat
  | [] => none
  | ['0'] => some 0
  | '0' :: 'x' :: s => Text.readDigits? 16 0 s
  | '0' :: 'X' :: s => Text.readDigits? 16 0 s
  | '0' :: s => Text.readDigits? 8 0 s
  | s => Text.readDigits? 10 0 s

/-- The parts of a host; a point at its end adds none. -/
def parts (host : List Char) : List (List Char) :=
  let ps := Text.fields '.' host
  if ps.getLast? = some [] then ps.dropLast else ps

/-- A host whose last part is a number is an address or nothing. -/
def looksNumeric (host : List Char) : Bool :=
  match (parts host).getLast? with
  | none => false
  | some part =>
    (!part.isEmpty && part.all fun c => (Text.digitValue? c).isSome) || (readPart? part).isSome

/-- The leading parts are octets, from the most significant one down. -/
def leading : List Nat → Nat
  | [] => 0
  | n :: ns => n * 16777216 + leading ns / 256

/-- The address written as a host. -/
def parse? (host : List Char) : Option Ipv4 :=
  let ps := parts host
  if ps.length > 4 then none
  else
    match ps.mapM readPart? with
    | none => none
    | some ns =>
      match ns.getLast? with
      | none => none
      | some last =>
        let front := ns.dropLast
        if last < Nat.pow 256 (4 - front.length) ∧ front.all (· < 256) then
          let value := leading front + last
          if h : value < 4294967296 then some ⟨value, h⟩ else none
        else none

/-- The four octets of an address. -/
def octets (a : Ipv4) : List Nat :=
  [a.value / 16777216, a.value / 65536 % 256, a.value / 256 % 256, a.value % 256]

/-- Four decimal numbers with points between them. -/
def shown (a : Ipv4) : String :=
  ".".intercalate (a.octets.map toString)

end Ipv4

end Carrier
