import Carrier.Config.Expansion
import Carrier.Proofs.Header.Outline
import Mathlib.Data.Option.Basic

/-!
# References to the service token

- `Environment.Alike`: two environments that differ in nothing but the service token.
- `Expansion.IsLiteral`, `Expansion.expand_of_isLiteral`: texts without references, which stand for
  themselves.
- `Expansion.outline_expand`: what a text becomes in two such environments.
-/

namespace Carrier

/-! ### Environments -/

/-- The environment variables that give the service token on a command line without it. -/
def tokenVariables : List String := ["WSCARRIER_SERVICE_TOKEN_ID", "WSCARRIER_SERVICE_TOKEN_SECRET"]

/-- Two environments that differ in nothing but the service token. -/
structure Environment.Alike (e f : Environment) : Prop where
  /-- Other variables are the same. -/
  same : ∀ name, name ∉ tokenVariables → e name = f name
  /-- Those of the token are set in both or in neither, to tokens. -/
  tokens : ∀ name, name ∈ tokenVariables → Option.Rel ServiceToken.Alike (e name) (f name)

/-- The variables of two such environments have one outline. -/
theorem Environment.Alike.outline_eq {e f : Environment} (h : e.Alike f) (name : String) :
    (e name).map ServiceToken.outline = (f name).map ServiceToken.outline := by
  by_cases hname : name ∈ tokenVariables
  · have htokens := h.tokens name hname
    revert htokens
    generalize e name = x
    generalize f name = y
    intro htokens
    cases htokens with
    | some h => exact congrArg some h.outline_eq
    | none => rfl
  · rw [h.same name hname]

namespace Expansion

/-! ### Literal texts -/

/-- A text without a reference, wherever one would begin. -/
def IsLiteral (text : String) : Prop := ∀ s, s <:+ text.toList → reference? s = none

/-- A text without a dollar sign has no references. -/
theorem isLiteral_of_not_mem {text : String} (h : '$' ∉ text.toList) : IsLiteral text := by
  intro s hs
  have hfree : '$' ∉ s := fun hmem => h (hs.subset hmem)
  unfold reference?
  split
  · exact absurd List.mem_cons_self hfree
  · rfl

theorem pieces_of_isLiteral {s : List Char} (h : ∀ t, t <:+ s → reference? t = none) :
    pieces s = s.map Piece.literal := by
  induction s with
  | nil => simp [pieces, reference?]
  | cons c rest ih =>
    have hrest : ∀ t, t <:+ rest → reference? t = none := fun t ht =>
      h t (ht.trans (List.suffix_cons c rest))
    rw [pieces]
    split
    · rename_i hreference
      rw [h (c :: rest) (List.suffix_refl _)] at hreference
      cases hreference
    · show Piece.literal c :: pieces rest = _
      rw [ih hrest, List.map_cons]

/-- A text without references stands for itself. -/
theorem expand_of_isLiteral (env : Environment) {text : String} (h : IsLiteral text) :
    expand env text = text := by
  have hvalues (s : List Char) : (s.map Piece.literal).flatMap (value env) = s := by
    induction s with
    | nil => rfl
    | cons c rest ih => rw [List.map_cons, List.flatMap_cons, ih, value, List.singleton_append]
  rw [expand, pieces_of_isLiteral h, hvalues, String.ofList_toList]

/-! ### Two environments -/

/-- A part of a text becomes values with one outline. -/
theorem outline_value {e f : Environment} (h : e.Alike f) (p : Piece) :
    ServiceToken.outline (String.ofList (value e p))
      = ServiceToken.outline (String.ofList (value f p)) := by
  cases p with
  | literal c => rfl
  | reference name =>
    have hname := h.outline_eq (String.ofList name)
    simp only [value, String.ofList_toList]
    revert hname
    generalize e (String.ofList name) = x
    generalize f (String.ofList name) = y
    intro hname
    cases x <;> cases y <;> simp_all

/-- What a text becomes in two environments that differ in the service token has one outline. -/
theorem outline_expand {e f : Environment} (h : e.Alike f) (text : String) :
    ServiceToken.outline (expand e text) = ServiceToken.outline (expand f text) := by
  simp only [expand]
  induction pieces text.toList with
  | nil => rfl
  | cons p rest ih =>
    rw [List.flatMap_cons, List.flatMap_cons, String.ofList_append, String.ofList_append,
      ServiceToken.outline_append, outline_value h, ih, ← ServiceToken.outline_append]

end Expansion

end Carrier
