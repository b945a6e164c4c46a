/-!
# References to environment variables

A reference is `$` and a name of at least one character in braces; the name goes on to the first
closing brace.

- `Expansion.pieces`: the one way in which a text is made of literal characters and references,
  read from left to right.
- `Expansion.expand`: the text with each reference replaced by the value of its variable, or by
  nothing. Values are not read again.

This is the program's `expand_env_vars` with its `ENV_VAR_PATTERN`.
-/

namespace Carrier

/-- What environment variables are set. -/
abbrev Environment := String → Option String

namespace Expansion

/-- A part of a text. -/
inductive Piece where
  /-- A character that stands for itself. -/
  | literal (c : Char)
  /-- A variable to be looked up. -/
  | reference (name : List Char)
  deriving DecidableEq, Repr

/-- The reference that a text begins with, and the text after it. -/
def reference? : List Char → Option (List Char × List Char)
  | '$' :: '{' :: s =>
    let name := s.takeWhile (· != '}')
    match s.dropWhile (· != '}') with
    | [] => none
    | _ :: rest => if name.isEmpty then none else some (name, rest)
  | _ => none

theorem reference?_shorter {s name rest : List Char} (h : reference? s = some (name, rest)) :
    rest.length < s.length := by
  unfold reference? at h
  split at h
  · rename_i t
    have shorter : (t.dropWhile (· != '}')).length ≤ t.length :=
      (List.dropWhile_sublist _).length_le
    revert h
    cases ht : t.dropWhile (· != '}') with
    | nil => simp
    | cons c after =>
      intro h
      rw [ht] at shorter
      simp only [List.length_cons] at shorter ⊢
      simp only [Option.ite_none_left_eq_some, Option.some.injEq, Prod.mk.injEq] at h
      rw [← h.2.2]
      omega
  · simp at h

/-- The parts of a text from left to right. -/
def pieces (s : List Char) : List Piece :=
  match _h : reference? s with
  | some (name, rest) => .reference name :: pieces rest
  | none =>
    match s with
    | [] => []
    | c :: t => .literal c :: pieces t
termination_by s.length
decreasing_by
  · exact reference?_shorter _h
  · simp

/-- What a part becomes. -/
def value (env : Environment) : Piece → List Char
  | .literal c => [c]
  | .reference name => ((env (String.ofList name)).getD "").toList

/-- A text with its references replaced. -/
def expand (env : Environment) (text : String) : String :=
  String.ofList ((pieces text.toList).flatMap (value env))

end Expansion

end Carrier
