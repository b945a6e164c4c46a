/-!
# Spans of time

A span is a count of nanoseconds. `Duration.shown` writes it in the largest unit that
makes it at least one, with as many decimals as it needs: `0ns`, `1.5µs`, `50ms`, `3600s`.
-/

namespace Carrier

/-- A span of time, counted in nanoseconds. -/
structure Duration where
  /-- The number of nanoseconds. -/
  nanos : Nat
  deriving DecidableEq, Repr

namespace Duration

/-- A span of whole seconds. -/
def seconds (n : Nat) : Duration := ⟨n * 1000000000⟩

/-- A span of whole milliseconds. -/
def millis (n : Nat) : Duration := ⟨n * 1000000⟩

instance : LE Duration := ⟨fun a b => a.nanos ≤ b.nanos⟩

instance (a b : Duration) : Decidable (a ≤ b) :=
  inferInstanceAs (Decidable (a.nanos ≤ b.nanos))

instance : Add Duration := ⟨fun a b => ⟨a.nanos + b.nanos⟩⟩

theorem add_assoc (a b c : Duration) : a + b + c = a + (b + c) :=
  congrArg Duration.mk (Nat.add_assoc a.nanos b.nanos c.nanos)

theorem zero_add (a : Duration) : (⟨0⟩ : Duration) + a = a :=
  congrArg Duration.mk (Nat.zero_add a.nanos)

theorem le_trans {a b c : Duration} (h₁ : a ≤ b) (h₂ : b ≤ c) : a ≤ c := Nat.le_trans h₁ h₂

theorem le_add_right (a b : Duration) : a ≤ a + b := Nat.le_add_right a.nanos b.nanos

/-- The `places` decimals of `n`, of which there are `places` even when the first are zero. -/
def decimals : Nat → Nat → List Char
  | 0, _ => []
  | places + 1, n =>
    Char.ofNat ('0'.toNat + n / Nat.pow 10 places % 10) :: decimals places n

/-- A count of units and a fraction of `places` decimals, without zeros at its end. -/
def inUnit (unit : String) (places n : Nat) : String :=
  let fraction := ((decimals places (n % Nat.pow 10 places)).reverse.dropWhile (· == '0')).reverse
  let point := if fraction.isEmpty then "" else "."
  toString (n / Nat.pow 10 places) ++ point ++ String.ofList fraction ++ unit

/-- The span in the largest unit that makes it at least one. -/
def shown (d : Duration) : String :=
  if 1000000000 ≤ d.nanos then inUnit "s" 9 d.nanos
  else if 1000000 ≤ d.nanos then inUnit "ms" 6 d.nanos
  else if 1000 ≤ d.nanos then inUnit "µs" 3 d.nanos
  else inUnit "ns" 0 d.nanos

end Duration

end Carrier
