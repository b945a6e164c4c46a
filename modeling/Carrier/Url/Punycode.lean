import Carrier.Text.Search

/-!
# Punycode

- `Punycode.encode`: a label as ASCII: its ASCII characters, a hyphen if there are any, and the
  positions of all others as a sequence of generalized variable-length integers.
- `Punycode.decode?`: the label such a text stands for.

Both count with unbounded numbers. A decoded value above the last code point is refused, so
an encoding that would overflow a machine word is refused as well.
-/

namespace Carrier

namespace Punycode

/-- The number of digits. -/
def base : Nat := 36

/-- The first code point that is not copied. -/
def firstCode : Nat := 128

/-- The bias before any delta has been read. -/
def firstBias : Nat := 72

/-- The value of a digit: letters of either case, then decimal digits. -/
def digitValue? (c : Char) : Option Nat :=
  if 'a' ≤ c ∧ c ≤ 'z' then some (c.toNat - 'a'.toNat)
  else if 'A' ≤ c ∧ c ≤ 'Z' then some (c.toNat - 'A'.toNat)
  else if '0' ≤ c ∧ c ≤ '9' then some (c.toNat - '0'.toNat + 26)
  else none

/-- The digit of a value below 36. -/
def digit (n : Nat) : Char :=
  if n < 26 then Char.ofNat (n + 'a'.toNat) else Char.ofNat (n - 26 + '0'.toNat)

/-- The least digit that goes on, at the place of weight index `k`. -/
def threshold (k bias : Nat) : Nat :=
  if k ≤ bias then 1 else if bias + 26 ≤ k then 26 else k - bias

theorem threshold_le (k bias : Nat) : threshold k bias ≤ 26 := by
  unfold threshold; split <;> (try split) <;> omega

/-- Scales a delta down, counting the places. -/
def scale (delta k : Nat) : Nat :=
  if 455 < delta then scale (delta / 35) (k + base) else k + 36 * delta / (delta + 38)
termination_by delta
decreasing_by omega

/-- The bias after a delta, given how many characters there are now. -/
def adapt (delta count : Nat) (first : Bool) : Nat :=
  let delta := if first then delta / 700 else delta / 2
  scale (delta + delta / count) 0

/-! ### Decoding -/

/-- What has been decoded, and the part of the next delta that has been read. -/
structure Decoder where
  /-- The characters so far. -/
  out : List Char
  /-- The code point of the last insertion. -/
  code : Nat
  /-- Where the next insertion goes, counted over all code points. -/
  index : Nat
  /-- Where the delta began. -/
  start : Nat
  /-- The bias that the thresholds follow. -/
  bias : Nat
  /-- The weight of the next digit. -/
  weight : Nat
  /-- The place of the next digit. -/
  place : Nat

/-- The character of a code point; surrogates have none. -/
def charOf? (n : Nat) : Option Char :=
  if h : n.isValidChar then some (Char.ofNatAux n h) else none

/-- Reads the deltas; the digits must end with a whole one. -/
def decodeDigits (d : Decoder) : List Char → Option (List Char)
  | [] => if d.place = base then some d.out else none
  | c :: cs =>
    match digitValue? c with
    | none => none
    | some v =>
      let index := d.index + v * d.weight
      let t := threshold d.place d.bias
      if v < t then
        let count := d.out.length + 1
        let code := d.code + index / count
        match charOf? code with
        | none => none
        | some c =>
          let at' := index % count
          decodeDigits
            { out := d.out.take at' ++ c :: d.out.drop at'
              code := code
              index := at' + 1
              start := at' + 1
              bias := adapt (index - d.start) count (d.start == 0)
              weight := 1
              place := base } cs
      else
        decodeDigits
          { d with index := index, weight := d.weight * (base - t), place := d.place + base } cs

/-- The label that a text stands for. -/
def decode? (s : List Char) : Option (List Char) :=
  let (basic, digits) :=
    match Text.cutLast? '-' s with
    | some (before, after) => if before.isEmpty then ([], s) else (before, after)
    | none => ([], s)
  if basic.all (·.toNat < firstCode) then
    decodeDigits ⟨basic, firstCode, 0, 0, firstBias, 1, base⟩ digits
  else none

/-! ### Encoding -/

/-- A delta as digits, the least significant first. -/
def encodeDelta (q k bias : Nat) : List Char :=
  let t := threshold k bias
  if _h : q < t ∨ q = 0 then [digit q]
  else digit (t + (q - t) % (base - t)) :: encodeDelta ((q - t) / (base - t)) (k + base) bias
termination_by q
decreasing_by
  have := threshold_le k bias
  simp only [not_or, Nat.not_lt] at _h
  refine Nat.lt_of_le_of_lt (Nat.div_le_div_left (?_ : 2 ≤ base - threshold k bias) (by omega)) ?_
  · unfold base; omega
  · omega

/-- The state of an encoding: the delta, the bias, the characters done and the digits written,
in reverse. -/
structure Encoder where
  /-- The delta to the next insertion. -/
  delta : Nat
  /-- The bias that the thresholds follow. -/
  bias : Nat
  /-- How many characters have been written. -/
  done : Nat
  /-- No delta has been written yet. -/
  first : Bool
  /-- The digits written, in reverse. -/
  out : List Char

/-- One character of the label, while `code` is the code point to insert. -/
def encodeChar (code : Nat) (e : Encoder) (c : Char) : Encoder :=
  if c.toNat < code then { e with delta := e.delta + 1 }
  else if c.toNat = code then
    { delta := 0
      bias := adapt e.delta (e.done + 1) e.first
      done := e.done + 1
      first := false
      out := (encodeDelta e.delta base e.bias).reverse ++ e.out }
  else e

/-- Inserts all characters of one code point after another; `code` is the least that has not
been inserted. -/
def encodeCodes (label : List Char) : Nat → Encoder → List Nat → Encoder
  | _, e, [] => e
  | code, e, next :: rest =>
    let e := { e with delta := e.delta + (next - code) * (e.done + 1) }
    let e := label.foldl (encodeChar next) e
    encodeCodes label (next + 1) { e with delta := e.delta + 1 } rest

/-- The code points of a label that are not copied, ascending and each once. -/
def codes (label : List Char) : List Nat :=
  ((label.map Char.toNat).filter (firstCode ≤ ·)).eraseDups.mergeSort

/-- A label as ASCII. -/
def encode (label : List Char) : List Char :=
  let basic := label.filter (·.toNat < firstCode)
  let e := encodeCodes label firstCode ⟨0, firstBias, basic.length, true, []⟩ (codes label)
  basic ++ (if basic.isEmpty then [] else ['-']) ++ e.out.reverse

end Punycode

end Carrier
