import Carrier.Text.Decimal

/-!
# Binary numbers of 53 digits

- `Double`: a number `mantissa · 2 ^ exponent`.
- `Double.nearest?`: the one that is nearest to a fraction.
- `Double.shortest`: the fewest decimal digits that read back as the same number.
- `Double.write`: these digits with a point among them and no exponent.
- `Scientific.read?`: a text in decimal digits, with or without point and exponent, as such a number.
-/

namespace Carrier

namespace Text

/-- A number `mantissa · 2 ^ exponent` of at most 53 binary digits. -/
structure Double where
  /-- The digits. -/
  mantissa : Nat
  /-- The power of two. -/
  exponent : Int
  deriving DecidableEq, Repr

/-- A quotient as the nearest whole number, a half as the even one. -/
def roundDiv (n d : Nat) : Nat :=
  let q := n / d
  let r := n % d
  if 2 * r < d ∨ (2 * r = d ∧ q % 2 = 0) then q else q + 1

namespace Double

/-- The fraction `n / d` divided by a power of a base. -/
def unscale (base : Nat) (n d : Nat) (power : Int) : Nat × Nat :=
  if 0 ≤ power then (n, d * Nat.pow base power.toNat) else (n * Nat.pow base (-power).toNat, d)

/-- The number that is nearest to the fraction `n / d`; `none` if that is too large. -/
def nearest? (n d : Nat) : Option Double :=
  let guess := max ((n.log2 : Int) - d.log2 - 53) (-1074)
  let (a, b) := unscale 2 n d guess
  let exponent := if Nat.pow 2 53 ≤ a / b then guess + 1 else guess
  let (a, b) := unscale 2 n d exponent
  let mantissa := roundDiv a b
  let (mantissa, exponent) :=
    if mantissa = Nat.pow 2 53 then (Nat.pow 2 52, exponent + 1) else (mantissa, exponent)
  if 971 < exponent then none else some ⟨mantissa, exponent⟩

/-- Looks for a number `digits · 10 ^ power` between the numbers that are nearer to `x` than to
any other, from a power on downwards. All are counted in quarters of the last binary digit. -/
def search (x : Double) : Nat → Int → Nat × Int
  | 0, power => (0, power)
  | fuel + 1, power =>
    let (up, down) := unscale 2 1 1 (2 - x.exponent)
    let (num, den) := unscale 10 up down power
    let middle := 4 * x.mantissa
    let low := if x.mantissa = Nat.pow 2 52 ∧ -1074 < x.exponent then middle - 1 else middle - 2
    let high := middle + 2
    let closed := x.mantissa % 2 = 0
    let within (c : Nat) : Bool :=
      if closed then low * num ≤ c * den && c * den ≤ high * num
      else decide (low * num < c * den) && decide (c * den < high * num)
    let below := middle * num / den
    let nearer := decide (2 * (middle * num) < (2 * below + 1) * den)
    if within below && (nearer || !within (below + 1)) then (below, power)
    else if within (below + 1) then (below + 1, power)
    else search x fuel (power - 1)

/-- The fewest decimal digits that read back as the same number, as `digits · 10 ^ power`. -/
def shortest (x : Double) : Nat × Int :=
  if x.mantissa = 0 then (0, 0)
  else search x 24 (((x.mantissa.log2 : Int) + x.exponent + 1) * 1233 / 4096 + 2)

/-- The shortest digits, with a point among them and no exponent. -/
def write (x : Double) : String :=
  let (digits, power) := x.shortest
  let s := Nat.toDigits 10 digits
  let text :=
    if 0 ≤ power then s ++ List.replicate power.toNat '0' ++ ['.', '0']
    else
      let places := (-power).toNat
      if places < s.length then
        s.take (s.length - places) ++ '.' :: s.drop (s.length - places)
      else '0' :: '.' :: List.replicate (places - s.length) '0' ++ s
  String.ofList text

end Double

/-! ### Reading -/

namespace Scientific

/-- The decimal digits at the beginning, and what follows. -/
def digits (s : List Char) : List Char × List Char :=
  let taken := s.takeWhile fun c => (digitValue? c).isSome
  (taken, s.drop taken.length)

/-- The exponent that ends a number; an empty text is none. -/
def exponent? : List Char → Option Int
  | [] => some 0
  | e :: s =>
    if e = 'e' ∨ e = 'E' then
      match s with
      | '-' :: s => (readNat? s).map fun n => -(n : Int)
      | '+' :: s => (readNat? s).map Int.ofNat
      | s => (readNat? s).map Int.ofNat
    else none

/-- A number without a sign as `digits · 10 ^ power`. -/
def scientific? (s : List Char) : Option (Nat × Int) :=
  let (whole, s) := digits s
  let (places, s) :=
    match s with
    | '.' :: s => digits s
    | s => ([], s)
  if whole.isEmpty && places.isEmpty then none
  else
    match exponent? s, readDigits? 10 0 (whole ++ places) with
    | some e, some n => some (n, e - places.length)
    | _, _ => none

/-- A number without a sign; `none` also if it is too large. -/
def read? (s : List Char) : Option Double :=
  match scientific? s with
  | none => none
  | some (n, power) =>
    let size : Int := (Nat.toDigits 10 n).length
    if n = 0 ∨ power + size < -330 then some ⟨0, 0⟩
    else if 310 < power + size then none
    else
      let (a, b) := Double.unscale 10 n 1 (-power)
      Double.nearest? a b

end Scientific

end Text

end Carrier
