import Carrier.Override
import Carrier.Proofs.Text.Fields

/-!
# Which texts are overrides

A text is an override when it has one to three fields, is not empty, and does not present an empty
name.

- `Override.parts`: the fields of an override.
- `Override.parse_eq_ok`: the texts that stand for an override.
- `Override.Presents`: the texts that present a name.
- `Override.parse_eq_presenting`: they are the overrides with three fields.
-/

namespace Carrier

namespace Override

/-- The fields that an override is written with. -/
def parts : Override → List String
  | .at host => [host]
  | .atPort host port => [host, port]
  | .presenting name port host _ => [name, port, host]

/-- A text is written with the fields of an override and colons between them. -/
theorem toList_written (o : Override) :
    o.written.toList = [':'].intercalate (o.parts.map String.toList) := by
  have hcolon : ":".toList = [':'] := rfl
  cases o with
  | «at» host => simp [written, parts]
  | atPort host port => simp [written, parts, hcolon]
  | presenting name port host named => simp [written, parts, hcolon]

/-- The colons of a text are where the fields of an override part. -/
theorem fields_eq_parts {raw : String} {o : Override} :
    (Text.fields ':' raw.toList).map String.ofList = o.parts ↔
      raw = o.written ∧ ∀ part ∈ o.parts, ':' ∉ part.toList := by
  have hne : o.parts.map String.toList ≠ [] := by cases o <;> exact List.cons_ne_nil _ _
  have hlists : (Text.fields ':' raw.toList).map String.ofList = o.parts ↔
      Text.fields ':' raw.toList = o.parts.map String.toList := by
    constructor
    · intro h
      rw [← h, List.map_map]
      simp [Function.comp_def]
    · intro h
      rw [h, List.map_map]
      simp [Function.comp_def]
  rw [hlists, Text.fields_eq_iff, ← toList_written, String.toList_inj]
  constructor
  · rintro ⟨-, hfree, hraw⟩
    refine ⟨hraw.symm, fun part hpart => hfree _ (List.mem_map_of_mem hpart)⟩
  · rintro ⟨hraw, hfree⟩
    refine ⟨hne, ?_, hraw.symm⟩
    intro piece hpiece
    obtain ⟨part, hpart, rfl⟩ := List.mem_map.mp hpiece
    exact hfree part hpart

/-- The override that some fields stand for. -/
theorem parse_of_ne_empty {raw : String} (hraw : raw ≠ "") {o : Override} :
    parse raw = .ok o ↔ (Text.fields ':' raw.toList).map String.ofList = o.parts := by
  have hempty : raw.isEmpty = false := by simpa using hraw
  unfold parse
  rw [hempty]
  generalize (Text.fields ':' raw.toList).map String.ofList = ps
  constructor
  · intro h
    split at h
    · cases h
    · split at h
      · cases h
        rfl
      · cases h
        rfl
      · split at h
        · cases h
          rfl
        · cases h
      · cases h
  · rintro rfl
    cases o with
    | «at» host => rfl
    | atPort host port => rfl
    | presenting name port host named => simp [parts, named]

/-- The texts that stand for an override: they are not empty, and no field has a colon. -/
theorem parse_eq_ok {raw : String} {o : Override} :
    parse raw = .ok o ↔ raw ≠ "" ∧ raw = o.written ∧ ∀ part ∈ o.parts, ':' ∉ part.toList := by
  by_cases hraw : raw = ""
  · subst hraw
    simp [parse]
  · rw [parse_of_ne_empty hraw, fields_eq_parts]
    simp [hraw]

/-- A text that presents a name to another host: three fields, of which the first is not empty. -/
structure Presents (raw name port host : String) : Prop where
  /-- The fields stand between the colons. -/
  written : raw = name ++ ":" ++ port ++ ":" ++ host
  /-- The name is not empty. -/
  named : name ≠ ""
  /-- No field has a colon. -/
  colonless : ∀ part ∈ [name, port, host], ':' ∉ part.toList

theorem parse_eq_presenting {raw name port host : String} (named : name ≠ "") :
    parse raw = .ok (.presenting name port host named) ↔ Presents raw name port host := by
  rw [parse_eq_ok]
  constructor
  · rintro ⟨-, hraw, hfree⟩
    exact ⟨hraw, named, hfree⟩
  · rintro ⟨hraw, -, hfree⟩
    refine ⟨?_, hraw, hfree⟩
    rintro rfl
    have hcolon : ":".length = 1 := rfl
    have hlength := congrArg String.length hraw
    simp only [String.length_append, String.length_empty] at hlength
    omega

theorem Presents.parse {raw name port host : String} (h : Presents raw name port host) :
    Override.parse raw = .ok (.presenting name port host h.named) :=
  (parse_eq_presenting h.named).mpr h

end Override

end Carrier
