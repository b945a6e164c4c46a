import Carrier.Text.Decimal
import Carrier.Text.Double
import Carrier.Text.Quoted
import Carrier.Yaml.Scalar

/-!
# What a scalar stands for

- `Value`: null, a truth value, a number or a text.
- `Value.ofPlain`: the value of a scalar that has neither quotes nor a tag.
- `readUnsigned?`, `readSigned?`, `readFloat?`: the numbers among the plain scalars.
- `Value.described`: how a value is named where another kind is expected.

Digits after a leading zero are a text and no number.

This is how `serde_yaml` reads scalars without a tag.
-/

namespace Carrier

namespace Yaml

/-- A number with a point. -/
inductive FloatValue where
  | finite (negative : Bool) (size : Text.Double)
  | infinite (negative : Bool)
  | nan
  deriving DecidableEq, Repr

/-- What a scalar stands for. -/
inductive Value where
  | null
  | bool (b : Bool)
  | int (n : Int)
  | float (x : FloatValue)
  | text (s : String)
  deriving DecidableEq, Repr

/-! ### Numbers -/

/-- Whether a text is digits after a leading zero. -/
def isPaddedDigits (s : List Char) : Bool :=
  let s := if s.head? = some '-' ∨ s.head? = some '+' then s.tail else s
  match s with
  | '0' :: c :: rest => (c :: rest).all fun c => (Text.digitValue? c).isSome
  | _ => false

/-- A number in a base, which has at least one digit and is below a bound. -/
def readBelow? (base bound : Nat) (s : List Char) : Option Nat :=
  if s.isEmpty then none
  else
    match Text.readDigits? base 0 s with
    | some n => if n < bound then some n else none
    | none => none

/-- The base that the first two characters name. -/
def base? : List Char → Option (Nat × List Char)
  | '0' :: 'x' :: s => some (16, s)
  | '0' :: 'o' :: s => some (8, s)
  | '0' :: 'b' :: s => some (2, s)
  | _ => none

/-- The part after one plus sign. -/
def withoutPlus (s : List Char) : List Char := if s.head? = some '+' then s.tail else s

/-- A number below a bound, which may have a plus sign and a base. -/
def readUnsigned? (bound : Nat) (s : List Char) : Option Nat :=
  let t := withoutPlus s
  match base? t with
  | some (base, digits) => readBelow? base bound digits
  | none => if isPaddedDigits s then none else readBelow? 10 bound t

/-- A negative number from `-bound` on, which may have a base. -/
def readNegative? (bound : Nat) (s : List Char) : Option Int :=
  match s with
  | '-' :: t =>
    match base? t with
    | some (base, digits) => (readBelow? base (bound + 1) digits).map fun n => -(n : Int)
    | none =>
      if isPaddedDigits s then none
      else (readBelow? 10 (bound + 1) t).map fun n => -(n : Int)
  | _ => none

/-- A whole number of at most 128 binary digits. -/
def readInt? (s : List Char) : Option Int :=
  match readUnsigned? (Nat.pow 2 128) s with
  | some n => some n
  | none => readNegative? (Nat.pow 2 127) s

/-- A number with a point, or one of the words for what is no number. -/
def readFloat? (s : List Char) : Option FloatValue :=
  let t := withoutPlus s
  let plus := s.head? = some '+'
  if [".inf", ".Inf", ".INF"].contains (String.ofList t) then some (.infinite false)
  else if ["-.inf", "-.Inf", "-.INF"].contains (String.ofList s) then some (.infinite true)
  else if [".nan", ".NaN", ".NAN"].contains (String.ofList s) then some .nan
  else
    match t with
    | '+' :: _ => none
    | '-' :: t => if plus then none else (Text.Scientific.read? t).map (.finite true)
    | t => (Text.Scientific.read? t).map (.finite false)

/-! ### Values -/

/-- Whether a text is a word for null. -/
def isNull (s : String) : Bool := ["null", "Null", "NULL", "~"].contains s

/-- A word for a truth value. -/
def readBool? (s : String) : Option Bool :=
  if ["true", "True", "TRUE"].contains s then some true
  else if ["false", "False", "FALSE"].contains s then some false
  else none

namespace Value

/-- The value of a scalar that has neither quotes nor a tag. -/
def ofPlain (s : String) : Value :=
  if s.isEmpty || isNull s then .null
  else
    match readBool? s with
    | some b => .bool b
    | none =>
      match readInt? s.toList with
      | some n => .int n
      | none =>
        if isPaddedDigits s.toList then .text s
        else
          match readFloat? s.toList with
          | some x => .float x
          | none => .text s

/-- The name of a number with a point. -/
def floatText : FloatValue → String
  | .finite negative x => (if negative then "-" else "") ++ x.write
  | .infinite negative => if negative then "-inf" else "inf"
  | .nan => "NaN"

/-- The name of a whole number; one that needs more than 64 binary digits is said to do so. -/
def intText (n : Int) : String :=
  let digits := "integer `" ++ toString n ++ "`"
  if n < -Int.ofNat (Nat.pow 2 63) then digits ++ " as i128"
  else if Int.ofNat (Nat.pow 2 64) ≤ n then digits ++ " as u128"
  else digits

/-- How a value is named where another kind is expected. -/
def described : Value → String
  | .null => "unit value"
  | .bool b => "boolean `" ++ toString b ++ "`"
  | .int n => intText n
  | .float x => "floating point `" ++ floatText x ++ "`"
  | .text s => "string " ++ Text.Quoted.write s

end Value

end Yaml

end Carrier
