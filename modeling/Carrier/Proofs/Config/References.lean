import Carrier.Config.Expansion
import Mathlib.Data.List.TakeWhile

/-!
# What references to environment variables become

- `Expansion.Decomposition`: a text cut into characters that stand for themselves and references,
  described without the order in which it is read.
- `Expansion.decomposition_iff`: `pieces` is the one decomposition of a text.
- `Expansion.expand_decomposed`: one pass over the decomposition expands a text, and only the
  variables that it names count.
-/

namespace Carrier

namespace Expansion

variable {s rest name : List Char} {c : Char} {ps : List Piece}

/-! ### Descriptions -/

/-- How a part is written. -/
def written : Piece → List Char
  | .literal c => [c]
  | .reference name => '$' :: '{' :: (name ++ ['}'])

/-- What a reference can hold, braces that open and line breaks among it. -/
def IsName (name : List Char) : Prop := name ≠ [] ∧ '}' ∉ name

/-- Whether a reference stands at the beginning of a text. -/
def BeginsReference (s : List Char) : Prop :=
  ∃ name rest, IsName name ∧ s = written (.reference name) ++ rest

/-- A text as literal characters and references. -/
structure Decomposition (s : List Char) (ps : List Piece) : Prop where
  /-- The parts one after the other are the text. -/
  whole : ps.flatMap written = s
  /-- References have names. -/
  named : ∀ name, .reference name ∈ ps → IsName name
  /-- A character that stands for itself is not where a reference begins. -/
  leftmost : ∀ c rest, .literal c :: rest <:+ ps → ¬ BeginsReference (c :: rest.flatMap written)

/-! ### The beginning of a text -/

/-- The reference that is read is the one that is written there. -/
theorem reference?_eq_some_iff :
    reference? s = some (name, rest) ↔ IsName name ∧ s = written (.reference name) ++ rest := by
  constructor
  · intro h
    unfold reference? at h
    split at h
    · rename_i t
      have hfree : '}' ∉ t.takeWhile (· != '}') := fun hmem => by
        simpa using List.mem_takeWhile_imp hmem
      have hcut := List.takeWhile_append_dropWhile (p := (· != '}')) (l := t)
      have hhead := List.head?_dropWhile_not (· != '}') t
      cases hrest : t.dropWhile (· != '}') with
      | nil => simp [hrest] at h
      | cons c after =>
        rw [hrest] at hcut hhead
        obtain rfl : c = '}' := by simpa using hhead
        simp only [hrest, List.isEmpty_iff, Option.ite_none_left_eq_some, Option.some.injEq,
          Prod.mk.injEq] at h
        obtain ⟨hne, rfl, rfl⟩ := h
        refine ⟨⟨hne, hfree⟩, ?_⟩
        simp only [written, List.cons_append, List.append_assoc, List.nil_append, hcut]
    · cases h
  · rintro ⟨⟨hne, hfree⟩, rfl⟩
    have hname : ∀ x ∈ name, (x != '}') = true := fun x hx => by
      simpa using fun hbrace : x = '}' => hfree (hbrace ▸ hx)
    simp only [written, List.cons_append, List.append_assoc, List.nil_append, reference?]
    rw [List.takeWhile_append_of_pos hname, List.dropWhile_append_of_pos hname]
    simp [hne]

/-- Where no reference begins none is read. -/
theorem reference?_eq_none_iff : reference? s = none ↔ ¬ BeginsReference s := by
  rw [← not_iff_not, not_not]
  constructor
  · intro h
    obtain ⟨⟨name, rest⟩, h⟩ := Option.ne_none_iff_exists'.mp h
    exact ⟨name, rest, reference?_eq_some_iff.mp h⟩
  · rintro ⟨name, rest, h⟩
    simp [reference?_eq_some_iff.mpr h]

theorem pieces_nil : pieces [] = [] := by
  rw [pieces]
  rfl

/-- A reference at the beginning is the first part. -/
theorem pieces_reference (h : IsName name) :
    pieces (written (.reference name) ++ rest) = .reference name :: pieces rest := by
  rw [pieces]
  split
  · rename_i name' rest' hread
    rw [reference?_eq_some_iff.mpr ⟨h, rfl⟩] at hread
    cases hread
    rfl
  · rename_i hread
    rw [reference?_eq_some_iff.mpr ⟨h, rfl⟩] at hread
    cases hread

/-- Where no reference begins the first character is the first part. -/
theorem pieces_literal (h : ¬ BeginsReference (c :: rest)) :
    pieces (c :: rest) = .literal c :: pieces rest := by
  rw [pieces]
  split
  · rename_i hread
    rw [reference?_eq_none_iff.mpr h] at hread
    cases hread
  · rfl

/-! ### Decompositions -/

/-- What follows the first part is decomposed too. -/
theorem Decomposition.tail {p : Piece} (h : Decomposition s (p :: ps)) :
    Decomposition (ps.flatMap written) ps where
  whole := rfl
  named name hname := h.named name (List.mem_cons_of_mem p hname)
  leftmost c rest hsuffix := h.leftmost c rest (hsuffix.trans (List.suffix_cons p ps))

theorem decomposition_nil : Decomposition [] [] where
  whole := rfl
  named _ hname := absurd hname List.not_mem_nil
  leftmost _ _ hsuffix := by simp at hsuffix

theorem Decomposition.reference (hname : IsName name) (h : Decomposition rest ps) :
    Decomposition (written (.reference name) ++ rest) (.reference name :: ps) where
  whole := by rw [List.flatMap_cons, h.whole]
  named other hother := by
    rcases List.mem_cons.mp hother with hother | hother
    · cases hother
      exact hname
    · exact h.named other hother
  leftmost c after hsuffix := by
    rcases List.suffix_cons_iff.mp hsuffix with hall | hsuffix
    · cases hall
    · exact h.leftmost c after hsuffix

theorem Decomposition.literal (hc : ¬ BeginsReference (c :: rest)) (h : Decomposition rest ps) :
    Decomposition (c :: rest) (.literal c :: ps) where
  whole := by rw [List.flatMap_cons, h.whole, written, List.singleton_append]
  named name hname := h.named name (by simpa using hname)
  leftmost d after hsuffix := by
    rcases List.suffix_cons_iff.mp hsuffix with hall | hsuffix
    · cases hall
      rwa [h.whole]
    · exact h.leftmost d after hsuffix

/-- The parts that are read decompose the text. -/
theorem decomposition_pieces (s : List Char) : Decomposition s (pieces s) := by
  -- Along the reading, since what follows a reference is not the tail of the text.
  induction s using pieces.induct with
  | case1 s name rest hread ih =>
    obtain ⟨hname, rfl⟩ := reference?_eq_some_iff.mp hread
    rw [pieces_reference hname]
    exact ih.reference hname
  | case2 => rw [pieces_nil]; exact decomposition_nil
  | case3 c rest hread ih =>
    have hc := reference?_eq_none_iff.mp hread
    rw [pieces_literal hc]
    exact ih.literal hc

/-- A text has one decomposition. -/
theorem decomposition_iff : Decomposition s ps ↔ ps = pieces s := by
  constructor
  · intro h
    induction ps generalizing s with
    | nil => rw [← h.whole, List.flatMap_nil, pieces_nil]
    | cons p ps ih =>
      have htail := ih h.tail
      rw [← h.whole, List.flatMap_cons]
      cases p with
      | literal c =>
        rw [written, List.singleton_append, pieces_literal (h.leftmost c ps List.suffix_rfl),
          ← htail]
      | reference name =>
        rw [pieces_reference (h.named name List.mem_cons_self), ← htail]
  · rintro rfl
    exact decomposition_pieces s

/-- A name goes on to the first closing brace, whatever opens within it; without a name nothing is
looked up. -/
example : pieces "$$\x7b$\x7bA\x7d\x7d$\x7b\x7d".toList
    = [.literal '$', .reference ['$', '{', 'A'], .literal '}', .literal '$', .literal '{',
        .literal '}'] := by
  cbv

/-! ### Expansion -/

/-- Parts whose variables two environments agree on become the same. -/
theorem flatMap_value_congr {env other : Environment}
    (h : ∀ name, .reference name ∈ ps → env (String.ofList name) = other (String.ofList name)) :
    ps.flatMap (value env) = ps.flatMap (value other) := by
  rw [List.flatMap_def, List.flatMap_def]
  refine congrArg List.flatten (List.map_congr_left fun p hp => ?_)
  cases p with
  | literal c => rfl
  | reference name => rw [value, value, h name hp]

/-- A text has one decomposition into literal characters and references, whatever the environment;
the characters with the values of the references among them are the expanded text, and variables to
which there is no reference do not count. -/
theorem expand_decomposed (text : String) :
    ∃ ps, Decomposition text.toList ps ∧ (∀ qs, Decomposition text.toList qs → qs = ps) ∧
      (∀ env, expand env text = String.ofList (ps.flatMap (value env))) ∧
      ∀ env other : Environment,
        (∀ name, .reference name ∈ ps → env (String.ofList name) = other (String.ofList name)) →
        expand env text = expand other text := by
  refine ⟨pieces text.toList, decomposition_pieces _, fun qs hqs => decomposition_iff.mp hqs,
    fun env => rfl, fun env other hsame => ?_⟩
  rw [expand, expand, flatMap_value_congr hsame]

end Expansion

end Carrier
