import Carrier.Bytes
import Carrier.DialError

/-!
# Certificates that are trusted

- `Der.element?`: one element of the encoding of certificates.
- `RootCertificate`: a certificate that servers' certificates may be signed with.
- `RootCertificate.check`: whether all of several can be read.

This is what `build_tls_connector` of the program's `WebSocketConfig` asks of its root certificates.
-/

namespace Carrier

namespace Der

/-- The length in front of some octets, and what follows it; no longer form than needed. -/
def length? : Bytes → Option (Nat × Bytes)
  | [] => none
  | b :: rest =>
    let n := b.toNat
    if n < 128 then some (n, rest)
    else
      match Bytes.split? (n - 128) rest with
      | none => none
      | some (octets, rest) =>
        let length := Bytes.number octets
        if octets.length = 0 ∨ 4 < octets.length ∨ length < 128 ∨
            length < Nat.pow 256 (octets.length - 1) then none
        else some (length, rest)

/-- Tag and content of the element at the beginning, and what follows it. -/
def element? : Bytes → Option (UInt8 × Bytes × Bytes)
  | [] => none
  | tag :: rest =>
    match length? rest with
    | none => none
    | some (length, rest) => (Bytes.split? length rest).map fun (content, rest) =>
      (tag, content, rest)

/-- The tag of a sequence. -/
def sequenceTag : UInt8 := 0x30

/-- The tag of a string of bits. -/
def bitsTag : UInt8 := 0x03

/-- Whether some octets are a certificate by their outer form: what is certified, the method of
the signature, and the signature. -/
def isCertificate (octets : Bytes) : Bool :=
  match element? octets with
  | some (tag, content, []) =>
    tag == sequenceTag &&
      match element? content with
      | some (first, _, rest) =>
        match element? rest with
        | some (second, _, rest) =>
          match element? rest with
          | some (third, _, []) => first == sequenceTag && second == sequenceTag && third == bitsTag
          | _ => false
        | none => false
      | none => false
  | _ => false

end Der

/-- A certificate that servers' certificates may be signed with. -/
inductive RootCertificate where
  /-- The certificate of the origin itself. -/
  | ofOrigin
  /-- A certificate in the usual encoding. -/
  | encoded (octets : Bytes)
  deriving DecidableEq, Repr

namespace RootCertificate

/-- Whether a certificate can be read. -/
def isReadable : RootCertificate → Bool
  | .ofOrigin => true
  | .encoded octets => Der.isCertificate octets

/-- Whether all of several certificates can be read. -/
def check (roots : List RootCertificate) : Except DialError Unit :=
  if roots.all isReadable then .ok ()
  else .error (.tls "Invalid root cert: invalid peer certificate: BadEncoding")

end RootCertificate

end Carrier
