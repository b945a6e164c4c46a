import Carrier.Text.Search

/-!
# The pieces of a text

- `Text.fields_eq_iff`: the pieces between separators are the one way to divide a text.
- `Text.length_fields`: there is one piece more than there are separators.
- `Text.cutChar?_eq_some_iff`: the halves around the first separator are the one way to divide it
  there; `Text.cutChar?_eq_none` if there is none.
- `Text.cut?_append`: a pattern is looked for behind a text in which it does not begin;
  `Text.cut?_eq_some`: what is found stands around it.
- `Text.mapM_map`: what is written piece by piece is read piece by piece.
-/

namespace Carrier

namespace Text

theorem fields_cons (sep c : Char) (s : List Char) :
    fields sep (c :: s)
      = if c = sep then [] :: fields sep s else (fields sep s).modifyHead (c :: ·) := by
  have hne : fields sep s ≠ [] := by
    cases s with
    | nil => exact List.cons_ne_nil _ _
    | cons d s =>
      unfold fields
      split
      · exact List.cons_ne_nil _ _
      · split <;> exact List.cons_ne_nil _ _
  show (if c = sep then _ else _) = _
  by_cases hc : c = sep
  · rw [if_pos hc, if_pos hc]
  · rw [if_neg hc, if_neg hc]
    cases hfields : fields sep s with
    | nil => exact absurd hfields hne
    | cons piece rest => rfl

/-- The pieces are those that lists are split into. -/
theorem fields_eq_splitOn (sep : Char) (s : List Char) : fields sep s = s.splitOn sep := by
  induction s with
  | nil => rfl
  | cons c s ih =>
    rw [fields_cons, ih, List.splitOn_cons_eq_if_modifyHead]
    simp

theorem not_mem_of_mem_fields {sep : Char} {s piece : List Char} (h : piece ∈ fields sep s) :
    sep ∉ piece := by
  induction s generalizing piece with
  | nil => simp_all [fields]
  | cons c s ih =>
    rw [fields_cons] at h
    by_cases hc : c = sep
    · rw [if_pos hc] at h
      rcases List.mem_cons.mp h with rfl | h
      · simp
      · exact ih h
    · rw [if_neg hc] at h
      cases hfields : fields sep s with
      | nil => simp [hfields] at h
      | cons first rest =>
        rw [hfields] at h ih
        rcases List.mem_cons.mp h with rfl | h
        · have hfirst := ih List.mem_cons_self
          simp [Ne.symm hc, hfirst]
        · exact ih (List.mem_cons_of_mem _ h)

/-- The pieces are the one way to divide a text at all its separators. -/
theorem fields_eq_iff {sep : Char} {s : List Char} {pieces : List (List Char)} :
    fields sep s = pieces ↔
      pieces ≠ [] ∧ (∀ piece ∈ pieces, sep ∉ piece) ∧ [sep].intercalate pieces = s := by
  constructor
  · rintro rfl
    refine ⟨?_, fun piece => not_mem_of_mem_fields, ?_⟩
    · rw [fields_eq_splitOn]
      exact List.splitOn_ne_nil sep s
    · rw [fields_eq_splitOn]
      exact List.intercalate_splitOn sep
  · rintro ⟨hne, hfree, rfl⟩
    rw [fields_eq_splitOn]
    exact List.splitOn_intercalate sep hfree hne

/-- What is written between pieces adds the separator alone. -/
theorem mem_intercalate {sep c : Char} {pieces : List (List Char)}
    (h : c ∈ [sep].intercalate pieces) : c = sep ∨ ∃ piece ∈ pieces, c ∈ piece := by
  induction pieces with
  | nil => simp at h
  | cons piece rest ih =>
    cases rest with
    | nil => exact .inr ⟨piece, List.mem_cons_self, by simpa using h⟩
    | cons next rest =>
      rw [List.intercalate_cons_cons, List.append_assoc, List.mem_append, List.mem_append,
        List.mem_singleton] at h
      rcases h with h | h | h
      · exact .inr ⟨piece, List.mem_cons_self, h⟩
      · exact .inl h
      · rcases ih h with h | ⟨other, hother, h⟩
        · exact .inl h
        · exact .inr ⟨other, List.mem_cons_of_mem piece hother, h⟩

/-- There is one piece more than there are separators. -/
theorem length_fields (sep : Char) (s : List Char) :
    (fields sep s).length = s.count sep + 1 := by
  induction s with
  | nil => rfl
  | cons c s ih =>
    rw [fields_cons, List.count_cons]
    by_cases hc : c = sep
    · simp [hc, ih]
    · simp [hc, ih]

/-- The halves around the first separator are the one way to divide a text there. -/
theorem cutChar?_eq_some_iff {sep : Char} {s before after : List Char} :
    cutChar? sep s = some (before, after) ↔ s = before ++ sep :: after ∧ sep ∉ before := by
  constructor
  · intro h
    refine ⟨cutChar?_eq_some h, ?_⟩
    induction s generalizing before with
    | nil => cases h
    | cons c s ih =>
      unfold cutChar? at h
      split at h
      · cases h
        exact List.not_mem_nil
      · rename_i hc
        obtain ⟨⟨front, back⟩, hcut, hhalves⟩ := Option.map_eq_some_iff.mp h
        cases hhalves
        rw [List.mem_cons, not_or]
        exact ⟨Ne.symm hc, ih hcut⟩
  · rintro ⟨rfl, hfree⟩
    induction before with
    | nil => exact if_pos rfl
    | cons c before ih =>
      rw [List.mem_cons, not_or] at hfree
      rw [List.cons_append, cutChar?, if_neg (Ne.symm hfree.1), ih hfree.2]
      rfl

/-- A text without the separator is not divided. -/
theorem cutChar?_eq_none {sep : Char} {s : List Char} (h : sep ∉ s) : cutChar? sep s = none := by
  induction s with
  | nil => rfl
  | cons c s ih =>
    rw [List.mem_cons, not_or] at h
    rw [cutChar?, if_neg (Ne.symm h.1), ih h.2]
    rfl

theorem cutLast?_eq_none {sep : Char} {s : List Char} (h : sep ∉ s) : cutLast? sep s = none := by
  have hrev : sep ∉ s.reverse := by simpa using h
  rw [cutLast?, cutChar?_eq_none hrev]
  rfl

/-! ### Patterns -/

/-- A character that the pattern does not begin with is passed over. -/
theorem cut?_cons {first c : Char} (h : c ≠ first) (pattern s : List Char) :
    cut? (first :: pattern) (c :: s) =
      (cut? (first :: pattern) s).map fun (before, after) => (c :: before, after) := by
  have hother : (first :: pattern).isPrefixOf (c :: s) = false := by
    simp [List.isPrefixOf, Ne.symm h]
  rw [cut?, hother, if_neg Bool.false_ne_true]

/-- So is a text without the character that the pattern begins with. -/
theorem cut?_append {first : Char} {front : List Char} (h : first ∉ front)
    (pattern s : List Char) :
    cut? (first :: pattern) (front ++ s) =
      (cut? (first :: pattern) s).map fun (before, after) => (front ++ before, after) := by
  induction front with
  | nil => simp
  | cons c front ih =>
    rw [List.mem_cons, not_or] at h
    rw [List.cons_append, cut?_cons (Ne.symm h.1), ih h.2, Option.map_map]
    rfl

/-- The two halves stand around the pattern. -/
theorem cut?_eq_some {pattern s before after : List Char}
    (h : cut? pattern s = some (before, after)) : s = before ++ pattern ++ after := by
  induction s generalizing before with
  | nil =>
    rw [cut?] at h
    split at h
    · rename_i hempty
      cases h
      rw [List.isEmpty_iff.mp hempty]
      rfl
    · cases h
  | cons c s ih =>
    rw [cut?] at h
    split at h
    · rename_i hstart
      cases h
      exact (List.prefix_iff_eq_append.mp (List.isPrefixOf_iff_prefix.mp hstart)).symm
    · obtain ⟨⟨front, back⟩, hcut, hhalves⟩ := Option.map_eq_some_iff.mp h
      cases hhalves
      rw [ih hcut]
      rfl

/-- A pattern with a character that the text lacks does not occur in it. -/
theorem contains_eq_false {pattern text : String} {c : Char} (hc : c ∈ pattern.toList)
    (h : c ∉ text.toList) : contains pattern text = false := by
  unfold contains
  cases hcut : cut? pattern.toList text.toList with
  | none => rfl
  | some halves =>
    rw [cut?_eq_some hcut] at h
    exact absurd (List.mem_append_left _ (List.mem_append_right _ hc)) h

/-! ### Pieces that are read one by one -/

section Pieces

variable {α β : Type}

/-- Each result comes of one of the pieces. -/
theorem exists_of_mem_mapM {f : α → Option β} {xs : List α} {ys : List β}
    (h : xs.mapM f = some ys) {y : β} (hy : y ∈ ys) : ∃ x ∈ xs, f x = some y := by
  induction xs generalizing ys with
  | nil =>
    cases h
    cases hy
  | cons x xs ih =>
    rw [List.mapM_cons] at h
    obtain ⟨z, hz, h⟩ := Option.bind_eq_some_iff.mp h
    obtain ⟨zs, hzs, h⟩ := Option.bind_eq_some_iff.mp h
    cases h
    rcases List.mem_cons.mp hy with rfl | hy
    · exact ⟨x, List.mem_cons_self, hz⟩
    · obtain ⟨w, hw, hread⟩ := ih hzs hy
      exact ⟨w, List.mem_cons_of_mem x hw, hread⟩

/-- Pieces that are written one by one are read one by one. -/
theorem mapM_map {f : β → Option α} {written : α → β} {xs : List α}
    (h : ∀ x ∈ xs, f (written x) = some x) : (xs.map written).mapM f = some xs := by
  induction xs with
  | nil => rfl
  | cons x xs ih =>
    have hx := h x List.mem_cons_self
    have hxs := ih fun y hy => h y (List.mem_cons_of_mem x hy)
    rw [List.map_cons, List.mapM_cons, hx, hxs]
    rfl

end Pieces

end Text

end Carrier
