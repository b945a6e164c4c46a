import Carrier.Bytes
import Carrier.Text.Utf8

/-!
# The answer to the challenge of an upgrade

A client sends a key that nobody can guess, and the other end proves that it speaks the protocol by
sending back a digest of it.

- `Sha1.digest`: the digest of 20 octets.
- `Base64.encode`: octets as text, three in four characters.
- `acceptText`: the answer to a key.

The client's key and the digest are those of `tungstenite`.
-/

namespace Carrier

namespace Sha1

/-- A message with what makes its length a multiple of 64: a one bit, zeros, and the number of its
bits. -/
def padded (message : Bytes) : Bytes :=
  let zeros := (119 - message.length % 64) % 64
  message ++ 0x80 :: List.replicate zeros 0 ++ Bytes.bigEndian 8 (8 * message.length)

/-- Octets as words of four. -/
def words : Bytes → List UInt32
  | a :: b :: c :: d :: rest => UInt32.ofNat (Bytes.number [a, b, c, d]) :: words rest
  | _ => []

/-- A word turned to the left. -/
def rotate (x : UInt32) (n : UInt32) : UInt32 := (x <<< n) ||| (x >>> (32 - n))

/-- The words of a block, the last first, with `n` more of which each is made of four before. -/
def extend : Nat → List UInt32 → List UInt32
  | 0, ws => ws
  | n + 1, ws =>
    let pick (i : Nat) : UInt32 := ws.getD i 0
    extend n (rotate (pick 2 ^^^ pick 7 ^^^ pick 13 ^^^ pick 15) 1 :: ws)

/-- Five words. -/
structure Chain where
  a : UInt32
  b : UInt32
  c : UInt32
  d : UInt32
  e : UInt32

/-- The five words before the first block. -/
def Chain.initial : Chain := ⟨0x67452301, 0xEFCDAB89, 0x98BADCFE, 0x10325476, 0xC3D2E1F0⟩

/-- What is added in a round: a function of three words, and a constant. -/
def term (round : Nat) (b c d : UInt32) : UInt32 :=
  if round < 20 then ((b &&& c) ||| ((~~~b) &&& d)) + 0x5A827999
  else if round < 40 then (b ^^^ c ^^^ d) + 0x6ED9EBA1
  else if round < 60 then ((b &&& c) ||| (b &&& d) ||| (c &&& d)) + 0x8F1BBCDC
  else (b ^^^ c ^^^ d) + 0xCA62C1D6

/-- The rounds of a block. -/
def rounds : Nat → List UInt32 → Chain → Chain
  | _, [], s => s
  | round, w :: ws, s =>
    rounds (round + 1) ws
      ⟨rotate s.a 5 + term round s.b s.c s.d + s.e + w, s.a, rotate s.b 30, s.c, s.d⟩

/-- The five words after a block. -/
def absorb (s : Chain) (block : List UInt32) : Chain :=
  let t := rounds 0 (extend 64 block.reverse).reverse s
  ⟨s.a + t.a, s.b + t.b, s.c + t.c, s.d + t.d, s.e + t.e⟩

/-- The five words after a message of whole blocks. -/
def chain (s : Chain) : Nat → List UInt32 → Chain
  | 0, _ => s
  | blocks + 1, ws => chain (absorb s (ws.take 16)) blocks (ws.drop 16)

/-- The digest of a message. -/
def digest (message : Bytes) : Bytes :=
  let ws := words (padded message)
  let s := chain Chain.initial (ws.length / 16) ws
  [s.a, s.b, s.c, s.d, s.e].flatMap fun w => Bytes.bigEndian 4 w.toNat

end Sha1

namespace Base64

/-- The character for a number below 64. -/
def char (n : Nat) : Char :=
  if n < 26 then Char.ofNat ('A'.toNat + n)
  else if n < 52 then Char.ofNat ('a'.toNat + (n - 26))
  else if n < 62 then Char.ofNat ('0'.toNat + (n - 52))
  else if n = 62 then '+'
  else '/'

/-- Octets as characters; what is missing in the last three is filled up. -/
def encode : Bytes → List Char
  | a :: b :: c :: rest =>
    let n := Bytes.number [a, b, c]
    char (n / 262144) :: char (n / 4096 % 64) :: char (n / 64 % 64) :: char (n % 64) ::
      encode rest
  | [a, b] =>
    let n := Bytes.number [a, b, 0]
    [char (n / 262144), char (n / 4096 % 64), char (n / 64 % 64), '=']
  | [a] =>
    let n := Bytes.number [a, 0, 0]
    [char (n / 262144), char (n / 4096 % 64), '=', '=']
  | [] => []

end Base64

/-- What is appended to a key before the digest. -/
def acceptSuffix : String := "258EAFA5-E914-47DA-95CA-C5AB0DC85B11"

/-- The answer to a key. -/
def acceptText (key : String) : String :=
  String.ofList (Base64.encode (Sha1.digest (Utf8.encode (key ++ acceptSuffix).toList)))

end Carrier
