/-!
# Decimal numbers

- `digitValue?`: the value of a decimal digit.
- `readNat?`: a whole text of decimal digits.
- `NumberFault`, `readBounded`: a text as a number below a bound, with the reason
  why it is none.
-/

namespace Carrier

namespace Text

/-- The value of a decimal digit. -/
def digitValue? (c : Char) : Option Nat :=
  if '0' ≤ c ∧ c ≤ '9' then some (c.toNat - '0'.toNat) else none

/-- The value of a hexadecimal digit of either case. -/
def hexValue? (c : Char) : Option Nat :=
  if '0' ≤ c ∧ c ≤ '9' then some (c.toNat - '0'.toNat)
  else if 'a' ≤ c ∧ c ≤ 'f' then some (c.toNat - 'a'.toNat + 10)
  else if 'A' ≤ c ∧ c ≤ 'F' then some (c.toNat - 'A'.toNat + 10)
  else none

/-- The digit of a value below 16, in lower case. -/
def hexDigit (n : Nat) : Char :=
  if n < 10 then Char.ofNat (n + '0'.toNat) else Char.ofNat (n - 10 + 'a'.toNat)

/-- The digit of a value below 16, in upper case. -/
def hexDigitUpper (n : Nat) : Char :=
  if n < 10 then Char.ofNat (n + '0'.toNat) else Char.ofNat (n - 10 + 'A'.toNat)

/-- A number in a base, read digit by digit after an accumulated part. -/
def readDigits? (base : Nat) (acc : Nat) : List Char → Option Nat
  | [] => some acc
  | c :: s =>
    match hexValue? c with
    | some d => if d < base then readDigits? base (acc * base + d) s else none
    | none => none

/-- A non-empty text of decimal digits as a number. -/
def readNat? (s : List Char) : Option Nat :=
  if s.isEmpty then none else readDigits? 10 0 s

/-- Why a text is no number below a bound. -/
inductive NumberFault where
  /-- There is no text at all. -/
  | empty
  /-- A character is no decimal digit, or a sign stands alone. -/
  | invalidDigit
  /-- The number does not fit. -/
  | tooLarge
  deriving DecidableEq, Repr

/-- The wording of a number fault. -/
def NumberFault.message : NumberFault → String
  | .empty => "cannot parse integer from empty string"
  | .invalidDigit => "invalid digit found in string"
  | .tooLarge => "number too large to fit in target type"

/-- The digits from left to right; the first fault met is the answer. -/
def readBelow (bound acc : Nat) : List Char → Except NumberFault Nat
  | [] => .ok acc
  | c :: s =>
    match digitValue? c with
    | none => .error .invalidDigit
    | some d =>
      if acc * 10 + d < bound then readBelow bound (acc * 10 + d) s else .error .tooLarge

/-- A text as a number below `bound`; one plus sign may stand in front of the digits. -/
def readBounded (bound : Nat) : List Char → Except NumberFault Nat
  | [] => .error .empty
  | ['+'] => .error .invalidDigit
  | '+' :: s => readBelow bound 0 s
  | s => readBelow bound 0 s

end Text

end Carrier
