import Mathlib.Data.Option.Basic
import Mathlib.Data.List.Forall2

/-!
# Results of two runs

- `ExceptRel`: two results that are related, or faults that are.
- `ExceptRel.bind`: results that go on.
- `ExceptRel.of_map_eq`: results that are made into the same.
-/

namespace Carrier

variable {ε δ α β γ κ : Type}

/-- Two results that are related, or two faults that are. -/
inductive ExceptRel (F : ε → δ → Prop) (R : α → β → Prop) : Except ε α → Except δ β → Prop where
  /-- Both are there. -/
  | ok {a : α} {b : β} (related : R a b) : ExceptRel F R (.ok a) (.ok b)
  /-- Both are faults. -/
  | error {f : ε} {g : δ} (related : F f g) : ExceptRel F R (.error f) (.error g)

namespace ExceptRel

variable {F : ε → δ → Prop} {R : α → β → Prop} {Q : γ → κ → Prop}

theorem ok_bind (a : α) (next : α → Except ε γ) : (Except.ok a >>= next) = next a := rfl

theorem refl {F : ε → ε → Prop} {R : α → α → Prop} (hF : ∀ f, F f f) (hR : ∀ a, R a a)
    (x : Except ε α) : ExceptRel F R x x := by
  cases x with
  | error f => exact .error (hF f)
  | ok a => exact .ok (hR a)

/-- What goes on from related results is related if it is for each two of them. -/
theorem bind {x : Except ε α} {y : Except δ β} (h : ExceptRel F R x y) {next : α → Except ε γ}
    {next' : β → Except δ κ} (hnext : ∀ a b, R a b → ExceptRel F Q (next a) (next' b)) :
    ExceptRel F Q (x >>= next) (y >>= next') := by
  cases h with
  | ok related => exact hnext _ _ related
  | error related => exact .error related

theorem map {x : Except ε α} {y : Except δ β} (h : ExceptRel F R x y) {f : α → γ} {g : β → κ}
    (hfg : ∀ a b, R a b → Q (f a) (g b)) : ExceptRel F Q (x.map f) (y.map g) := by
  cases h with
  | ok related => exact .ok (hfg _ _ related)
  | error related => exact .error related

theorem mapError {x : Except ε α} {y : Except δ β} (h : ExceptRel F R x y) {φ ψ : Type}
    {G : φ → ψ → Prop} {f : ε → φ} {g : δ → ψ} (hfg : ∀ a b, F a b → G (f a) (g b)) :
    ExceptRel G R (x.mapError f) (y.mapError g) := by
  cases h with
  | ok related => exact .ok related
  | error related => exact .error (hfg _ _ related)

/-- Results that are made into the same are so related, and faults are the same. -/
theorem of_map_eq {x : Except ε α} {y : Except ε β} {f : α → γ} {g : β → γ}
    (h : x.map f = y.map g) : ExceptRel Eq (fun a b => f a = g b) x y := by
  cases x with
  | error e =>
    cases y with
    | error e' => exact .error (Except.error.inj h)
    | ok b => cases h
  | ok a =>
    cases y with
    | error e' => cases h
    | ok b => exact .ok (Except.ok.inj h)

theorem imp {x : Except ε α} {y : Except δ β} (h : ExceptRel F R x y) {G : ε → δ → Prop}
    {P : α → β → Prop} (hF : ∀ f g, F f g → G f g) (hR : ∀ a b, R a b → P a b) :
    ExceptRel G P x y := by
  cases h with
  | ok related => exact .ok (hR _ _ related)
  | error related => exact .error (hF _ _ related)

end ExceptRel

end Carrier
