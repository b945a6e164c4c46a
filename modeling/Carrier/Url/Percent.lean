import Carrier.Text.Decimal
import Carrier.Text.Utf8

/-!
# Percent encoding

- `Percent.Class`: the characters of a URL component that are written as `%XX`.
- `Percent.encode`: a text with the characters of a class written as the octets of their
  UTF-8 form.
- `Percent.decode`: the octets of a text with its `%XX` groups read.

Characters outside ASCII are in every class.
-/

namespace Carrier

namespace Percent

/-- A class of characters, besides those outside ASCII. -/
abbrev Class := Char → Bool

/-- Control characters. -/
def controls : Class := fun c => c.toNat < 0x20 || c.toNat == 0x7F

/-- Characters encoded in a fragment. -/
def fragment : Class := fun c => controls c || " \"<>`".toList.contains c

/-- Characters encoded in a query. -/
def query : Class := fun c => controls c || " \"#<>".toList.contains c

/-- Characters encoded in the query of a URL with a special scheme. -/
def specialQuery : Class := fun c => query c || c == '\''

/-- Characters encoded in a path. -/
def path : Class := fun c => fragment c || "#?\x7b\x7d".toList.contains c

/-- Characters encoded in a user name or password. -/
def userinfo : Class := fun c => path c || "/:;=@[\\]^|".toList.contains c

/-- One octet as `%XX`, with upper-case digits. -/
def escape (b : UInt8) : List Char :=
  ['%', Text.hexDigitUpper (b.toNat / 16), Text.hexDigitUpper (b.toNat % 16)]

/-- One character, encoded if it is in the class or outside ASCII. -/
def encodeChar (cls : Class) (c : Char) : List Char :=
  if 0x80 ≤ c.toNat ∨ cls c then (String.utf8EncodeChar c).flatMap escape else [c]

/-- A text with the characters of a class encoded. -/
def encode (cls : Class) (s : List Char) : List Char :=
  s.flatMap (encodeChar cls)

/-- The octets of a text, each `%XX` group being one octet. -/
def decode : List Char → List UInt8
  | [] => []
  | '%' :: h :: l :: s =>
    match Text.hexValue? h, Text.hexValue? l with
    | some a, some b => UInt8.ofNat (a * 16 + b) :: decode s
    | _, _ => 37 :: decode (h :: l :: s)
  | c :: s => String.utf8EncodeChar c ++ decode s

end Percent

end Carrier
