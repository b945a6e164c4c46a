/-!
# Octet strings

- `Bytes`: a list of octets.
- `Bytes.bigEndian`, `Bytes.number`: a number as octets, most significant first, and back.
- `Bytes.pieces`: an octet string cut into pieces of a given length.
-/

namespace Carrier

/-- A list of octets. -/
abbrev Bytes := List UInt8

namespace Bytes

/-- A number as `width` octets, most significant first. -/
def bigEndian : Nat → Nat → Bytes
  | 0, _ => []
  | width + 1, n => UInt8.ofNat (n / Nat.pow 256 width) :: bigEndian width n

/-- The number that octets write, most significant first. -/
def number (bytes : Bytes) : Nat :=
  bytes.foldl (fun n b => n * 256 + b.toNat) 0

/-- The first `n` octets and the rest, if there are so many. -/
def split? (n : Nat) (bytes : Bytes) : Option (Bytes × Bytes) :=
  let front := bytes.take n
  if front.length = n then some (front, bytes.drop n) else none

/-- Pieces of `size` octets, the last of which may be shorter; no piece is empty. -/
def pieces (size : Nat) (bytes : Bytes) : List Bytes :=
  match bytes with
  | [] => []
  | b :: rest =>
    if size = 0 then [b :: rest]
    else (b :: rest.take (size - 1)) :: pieces size (rest.drop (size - 1))
termination_by bytes.length
decreasing_by simp only [List.length_drop, List.length_cons]; omega

theorem split?_length {n : Nat} {bytes front rest : Bytes}
    (h : split? n bytes = some (front, rest)) : rest.length ≤ bytes.length := by
  simp only [split?] at h
  split at h
  · simp only [Option.some.injEq, Prod.mk.injEq] at h
    rw [← h.2, List.length_drop]
    omega
  · simp at h

theorem split?_append {n : Nat} {bytes front rest : Bytes}
    (h : split? n bytes = some (front, rest)) : front ++ rest = bytes ∧ front.length = n := by
  simp only [split?] at h
  split at h
  · rename_i hn
    simp only [Option.some.injEq, Prod.mk.injEq] at h
    obtain ⟨rfl, rfl⟩ := h
    exact ⟨List.take_append_drop n bytes, hn⟩
  · simp at h

/-- Nothing is lost when an octet string is cut. -/
theorem pieces_flatten (size : Nat) (bytes : Bytes) : (pieces size bytes).flatten = bytes := by
  fun_induction pieces size bytes with
  | case1 => rfl
  | case2 b rest => simp
  | case3 b rest hsize ih =>
    rw [List.flatten_cons, ih, List.cons_append, List.take_append_drop]

/-- A piece is not empty, and not longer than the size. -/
theorem length_of_mem_pieces {size : Nat} {bytes piece : Bytes} (hsize : 0 < size)
    (h : piece ∈ pieces size bytes) : 1 ≤ piece.length ∧ piece.length ≤ size := by
  fun_induction pieces size bytes with
  | case1 => simp at h
  | case2 b rest => omega
  | case3 b rest _ ih =>
    rcases List.mem_cons.mp h with rfl | h
    · simp only [List.length_cons, List.length_take]
      omega
    · exact ih h

end Bytes

end Carrier
