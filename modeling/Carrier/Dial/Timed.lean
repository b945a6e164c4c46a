import Carrier.Duration

/-!
# Results that take time

- `Timed`: a result and how long it takes, or nothing at all.
- `Timed.later`: the same after a wait.
- `Timed.andThen`: what follows a success.
- `Timed.within`: what is known when a span is over.

The span is that of the `timeout` around `connect` in the program's `dial`.
-/

namespace Carrier

/-- A result and how long it takes. -/
inductive Timed (α : Type) where
  /-- It never comes. -/
  | never
  /-- It comes after a while. -/
  | after (wait : Duration) (result : α)
  deriving DecidableEq, Repr

namespace Timed

/-- A result that is there at once. -/
def now {α : Type} (x : α) : Timed α := .after ⟨0⟩ x

/-- A result that takes so much longer. -/
def later {α : Type} (wait : Duration) : Timed α → Timed α
  | .never => .never
  | .after more x => .after (wait + more) x

/-- What follows a success; a failure stays. -/
def andThen {ε α β : Type} (x : Timed (Except ε α)) (next : α → Timed (Except ε β)) :
    Timed (Except ε β) :=
  match x with
  | .never => .never
  | .after wait (.error e) => .after wait (.error e)
  | .after wait (.ok a) => (next a).later wait

/-- The result, if it comes within a span. -/
def within {α : Type} (limit : Duration) : Timed α → Option α
  | .never => none
  | .after wait x => if wait ≤ limit then some x else none

end Timed

end Carrier
