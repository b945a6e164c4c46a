/-!
# Cutting a text

- `cut?`: the text before and after the first occurrence of a pattern.
- `cutChar?`: the same for a pattern of one character.
- `fields`: all pieces between the occurrences of a separator.

The pieces of `fields` joined by the separator give the text back, and so do the
two halves of `cut?` around the pattern.
-/

namespace Carrier

namespace Text

/-- The text before and after the first occurrence of a pattern. -/
def cut? (pattern : List Char) : List Char → Option (List Char × List Char)
  | [] => if pattern.isEmpty then some ([], []) else none
  | c :: s =>
    if pattern.isPrefixOf (c :: s) then some ([], (c :: s).drop pattern.length)
    else (cut? pattern s).map fun (before, after) => (c :: before, after)

/-- The text before and after the first occurrence of a character. -/
def cutChar? (sep : Char) : List Char → Option (List Char × List Char)
  | [] => none
  | c :: s =>
    if c = sep then some ([], s)
    else (cutChar? sep s).map fun (before, after) => (c :: before, after)

/-- Whether a pattern occurs in a text. -/
def contains (pattern text : String) : Bool :=
  (cut? pattern.toList text.toList).isSome

/-- The pieces between the occurrences of a separator; a text without it is one piece. -/
def fields (sep : Char) : List Char → List (List Char)
  | [] => [[]]
  | c :: s =>
    if c = sep then [] :: fields sep s
    else
      match fields sep s with
      | [] => [[c]]
      | piece :: rest => (c :: piece) :: rest

/-- The text after the last occurrence of a character, and the text before it. -/
def cutLast? (sep : Char) (s : List Char) : Option (List Char × List Char) :=
  (cutChar? sep s.reverse).map fun (after, before) => (before.reverse, after.reverse)

theorem cutChar?_eq_some {sep : Char} {s before after : List Char}
    (h : cutChar? sep s = some (before, after)) : s = before ++ sep :: after := by
  induction s generalizing before with
  | nil => simp [cutChar?] at h
  | cons c s ih =>
    by_cases hc : c = sep
    · simp [cutChar?, hc] at h
      obtain ⟨rfl, rfl⟩ := h
      simp [hc]
    · simp only [cutChar?, hc, if_false, Option.map_eq_some_iff, Prod.mk.injEq] at h
      obtain ⟨⟨b, a⟩, hb, rfl, rfl⟩ := h
      simp [ih hb]

end Text

end Carrier
