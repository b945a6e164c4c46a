import Carrier.Proofs.Relay.Session
import Mathlib.Data.List.TakeWhile

/-!
# What a script brings to a relay

- `Event.arrived`: the octets that the other end sends before it goes.
- `Event.written`: the chunks that the application writes before its data end.
- `Event.arrived_concat`, `Event.written_concat`: both event by event.
-/

namespace Carrier

namespace Event

/-- The octets that an event brings from the other end. -/
def octets : Event → Bytes
  | .remoteBytes data => data
  | _ => []

/-- The octets that the other end sends before it goes. -/
def arrived (script : List Event) : Bytes :=
  (script.takeWhile (· ≠ .remoteDrop)).flatMap octets

/-- Whether the application's data end. -/
def endsData : Event → Bool
  | .localEnd _ => true
  | _ => false

/-- The chunk that an event brings from the application. -/
def chunk? : Event → Option Bytes
  | .localWrite data => some data
  | _ => none

/-- The chunks that the application writes before its data end. -/
def written (script : List Event) : List Bytes :=
  (script.takeWhile (!endsData ·)).filterMap chunk?

theorem takeWhile_concat (p : Event → Bool) (es : List Event) (e : Event) :
    (es ++ [e]).takeWhile p = es.takeWhile p ++ if es.all p then [e].takeWhile p else [] := by
  rw [List.takeWhile_append]
  by_cases hall : es.all p
  · have hself : es.takeWhile p = es :=
      List.takeWhile_eq_self_iff.mpr (List.all_eq_true.mp hall)
    rw [hself, if_pos rfl, if_pos hall]
  · have hlen : (es.takeWhile p).length ≠ es.length := by
      intro hlen
      have hself := (List.takeWhile_prefix p).eq_of_length hlen
      exact hall (List.all_eq_true.mpr (List.takeWhile_eq_self_iff.mp hself))
    rw [if_neg hlen, if_neg hall, List.append_nil]

/-- Another event adds to the octets, unless the other end has gone. -/
theorem arrived_concat (es : List Event) (e : Event) :
    arrived (es ++ [e]) = arrived es ++ if .remoteDrop ∈ es then [] else e.octets := by
  unfold arrived
  rw [takeWhile_concat, List.flatMap_append]
  by_cases hmem : .remoteDrop ∈ es
  · have hall : ¬ es.all (· ≠ .remoteDrop) = true := by
      rw [List.all_eq_true]
      intro h
      simpa using h _ hmem
    rw [if_neg hall, if_pos hmem]
    rfl
  · have hall : es.all (· ≠ .remoteDrop) = true := by
      rw [List.all_eq_true]
      intro x hx
      have : x ≠ .remoteDrop := fun heq => hmem (heq ▸ hx)
      simpa using this
    rw [if_pos hall, if_neg hmem]
    cases e <;> simp [octets]

/-- Another event adds to the chunks, unless the application's data have ended. -/
theorem written_concat (es : List Event) (e : Event) :
    written (es ++ [e]) = written es ++ if es.any endsData then [] else e.chunk?.toList := by
  unfold written
  rw [takeWhile_concat, List.filterMap_append, ← List.not_any_eq_all_not]
  cases es.any endsData with
  | true => rfl
  | false => cases e <;> rfl

theorem arrived_mono (es more : List Event) : arrived es <+: arrived (es ++ more) := by
  induction more using List.reverseRecOn with
  | nil => simp
  | append_singleton more e ih =>
    rw [← List.append_assoc, arrived_concat]
    exact ih.trans (List.prefix_append _ _)

theorem written_mono (es more : List Event) : written es <+: written (es ++ more) := by
  induction more using List.reverseRecOn with
  | nil => simp
  | append_singleton more e ih =>
    rw [← List.append_assoc, written_concat]
    exact ih.trans (List.prefix_append _ _)

/-- After the end of the application's data there are no more chunks. -/
theorem written_ended {es : List Event} (h : es.any endsData = true) (more : List Event) :
    written (es ++ more) = written es := by
  induction more using List.reverseRecOn with
  | nil => rw [List.append_nil]
  | append_singleton more e ih =>
    rw [← List.append_assoc, written_concat, List.any_append, h, ih]
    exact List.append_nil _

/-- Octets that come after the other end has gone do not arrive. -/
theorem arrived_dropped {es : List Event} (h : .remoteDrop ∈ es) (more : List Event) :
    arrived (es ++ more) = arrived es := by
  induction more using List.reverseRecOn with
  | nil => rw [List.append_nil]
  | append_singleton more e ih =>
    rw [← List.append_assoc, arrived_concat, if_pos (List.mem_append_left more h), ih]
    exact List.append_nil _

end Event

end Carrier
