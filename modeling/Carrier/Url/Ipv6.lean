import Carrier.Text.Decimal
import Carrier.Text.Search

/-!
# IPv6 addresses

- `Ipv6`: eight groups of 16 bits.
- `Ipv6.parse?`: groups of one to four hexadecimal digits, where `::` stands for one or more zero groups
  and the last two groups may be four decimal numbers.
- `Ipv6.shown`: lower-case digits, the longest run of zero groups (the first of several) as `::`.
- `Ipv6.shownMapped`: the same, with the last two groups of a mapped IPv4 address
  (`::ffff:a.b.c.d`) as decimal numbers.
-/

namespace Carrier

/-- An IPv6 address: eight groups of 16 bits. -/
structure Ipv6 where
  /-- The groups, most significant first. -/
  groups : List Nat
  /-- There are eight of them. -/
  eight : groups.length = 8
  deriving DecidableEq, Repr

namespace Ipv6

/-- A group of one to four hexadecimal digits. -/
def readGroup? (s : List Char) : Option Nat :=
  if s.isEmpty ∨ s.length > 4 then none else Text.readDigits? 16 0 s

/-- A decimal octet without needless zeros. -/
def readOctet? : List Char → Option Nat
  | '0' :: _ :: _ => none
  | s =>
    match Text.readNat? s with
    | some n => if n < 256 then some n else none
    | none => none

/-- Four decimal octets as two groups. -/
def readQuad? (s : List Char) : Option (List Nat) :=
  match (Text.fields '.' s).mapM readOctet? with
  | some [a, b, c, d] => some [a * 256 + b, c * 256 + d]
  | _ => none

/-- Groups with colons between them; the last piece may be four decimal octets. -/
def readGroups? : List (List Char) → Option (List Nat)
  | [] => some []
  | [last] => if last.contains '.' then readQuad? last else (readGroup? last).map ([·])
  | s :: rest =>
    match readGroup? s, readGroups? rest with
    | some n, some ns => some (n :: ns)
    | _, _ => none

/-- Groups of a part of an address that may be empty. -/
def readPart? (s : List Char) : Option (List Nat) :=
  if s.isEmpty then some [] else readGroups? (Text.fields ':' s)

/-- The address written between brackets. -/
def parse? (s : List Char) : Option Ipv6 :=
  match Text.cut? "::".toList s with
  | none =>
    match readPart? s with
    | some ns => if h : ns.length = 8 then some ⟨ns, h⟩ else none
    | none => none
  | some (front, back) =>
    if front.contains '.' then none
    else
      match readPart? front, readPart? back with
      | some ns, some ms =>
        if ns.length + ms.length < 8 then
          let all := ns ++ List.replicate (8 - ns.length - ms.length) 0 ++ ms
          if h : all.length = 8 then some ⟨all, h⟩ else none
        else none
      | _, _ => none

/-- A number in hexadecimal, without leading zeros. -/
def hex (n : Nat) : String :=
  String.ofList (Nat.toDigits 16 n)

/-- The number of zeros at the head of a list. -/
def zeros (gs : List Nat) : Nat :=
  (gs.takeWhile (· == 0)).length

/-- Where the longest run of at least two zero groups begins, and its length; of several the
first. -/
def longestRun (gs : List Nat) : Option (Nat × Nat) :=
  (List.range gs.length).foldl
    (fun best i =>
      let n := zeros (gs.drop i)
      match best with
      | some (_, m) => if m < n then some (i, n) else best
      | none => if 2 ≤ n then some (i, n) else none)
    none

/-- Groups with colons between them. -/
def joined (gs : List Nat) : String :=
  ":".intercalate (gs.map hex)

/-- The address with its longest run of zero groups left out. -/
def shown (a : Ipv6) : String :=
  match longestRun a.groups with
  | none => joined a.groups
  | some (i, n) => joined (a.groups.take i) ++ "::" ++ joined (a.groups.drop (i + n))

/-- As `shown`, except that a mapped IPv4 address ends in decimal octets. -/
def shownMapped (a : Ipv6) : String :=
  match a.groups with
  | [0, 0, 0, 0, 0, 0xffff, g, h] =>
    "::ffff:" ++ ".".intercalate ([g / 256, g % 256, h / 256, h % 256].map toString)
  | _ => a.shown

end Ipv6

end Carrier
