import Carrier.Proofs.WebSocket.Stream

/-!
# Frame boundaries in a stream of octets

- `WireFrame.Leads`: reading frames one after the other, up to some place.
- `WireFrame.Whole`: octets that are whole frames; `WireFrame.Leads.whole`: what is left of them
  when some have been read.
- `WireFrame.read_unfinished`: a frame of which octets are missing cannot be read yet.
- `WireFrame.Interlude.readable`: pings and pongs within the limit are read as they are written.
-/

namespace Carrier

namespace WireFrame

/-- `Leads limit bytes fs rest`: the frames `fs`, read one after the other from `bytes`, lead to
`rest`. -/
inductive Leads (limit : Nat) : Bytes → List WireFrame → Bytes → Prop where
  | here (bytes : Bytes) : Leads limit bytes [] bytes
  | frame {bytes rest after : Bytes} {f : WireFrame} {fs : List WireFrame}
    (hread : read limit bytes = .frame f rest) (h : Leads limit rest fs after) :
    Leads limit bytes (f :: fs) after

/-- Octets that are whole frames: reading them comes to their end. -/
def Whole (limit : Nat) (bytes : Bytes) : Prop := ∃ fs, Leads limit bytes fs []

section Leads

variable {limit : Nat} {bytes rest after : Bytes} {fs gs : List WireFrame} {f : WireFrame}

theorem Leads.trans (h₁ : Leads limit bytes fs rest) (h₂ : Leads limit rest gs after) :
    Leads limit bytes (fs ++ gs) after := by
  induction h₁ with
  | here => exact h₂
  | frame hread h ih => exact .frame hread (ih h₂)

/-- One more frame that is read. -/
theorem Leads.concat (h : Leads limit bytes fs rest) (hread : read limit rest = .frame f after) :
    Leads limit bytes (fs ++ [f]) after :=
  h.trans (.frame hread (.here after))

/-- What has been read stays read when more octets come. -/
theorem Leads.append (h : Leads limit bytes fs rest) (more : Bytes) :
    Leads limit (bytes ++ more) fs (rest ++ more) := by
  induction h with
  | here => exact .here _
  | frame hread h ih => exact .frame (read_append more hread) ih

/-- The frames read are the first of those that the octets hold. -/
theorem Leads.all (h : Leads limit bytes fs rest) :
    WireFrame.all limit bytes = fs ++ WireFrame.all limit rest := by
  induction h with
  | here => rfl
  | frame hread h ih => rw [all_frame hread, ih, List.cons_append]

theorem read_nil (limit : Nat) : read limit [] = .incomplete := rfl

theorem Whole.nil (limit : Nat) : Whole limit [] := ⟨[], .here []⟩

/-- Whole frames are none, or begin with a frame. -/
theorem Whole.cases (h : Whole limit bytes) :
    bytes = [] ∨ ∃ f rest, read limit bytes = .frame f rest ∧ Whole limit rest := by
  obtain ⟨fs, h⟩ := h
  cases h with
  | here => exact .inl rfl
  | frame hread h => exact .inr ⟨_, _, hread, _, h⟩

theorem Whole.past (h : Whole limit bytes) (hread : read limit bytes = .frame f rest) :
    Whole limit rest := by
  rcases h.cases with rfl | ⟨g, other, hother, hrest⟩
  · cases (read_nil limit).symm.trans hread
  · cases hread.symm.trans hother
    exact hrest

/-- What is left of whole frames when some have been read is whole frames. -/
theorem Leads.whole (h : Leads limit bytes fs rest) (hwhole : Whole limit bytes) :
    Whole limit rest := by
  induction h with
  | here => exact hwhole
  | frame hread h ih => exact ih (hwhole.past hread)

/-- Whole frames of which none can be read are none. -/
theorem Whole.eq_nil (h : Whole limit bytes) (hread : read limit bytes = .incomplete) :
    bytes = [] := by
  rcases h.cases with hnil | ⟨f, rest, hframe, -⟩
  · exact hnil
  · cases hread.symm.trans hframe

end Leads

/-! ### Unfinished frames -/

/-- A frame of which octets are missing cannot be read yet. -/
theorem read_unfinished {limit : Nat} {f : WireFrame} (hf : f.Readable limit) {part : Bytes}
    (hpart : part <+: f.encode) (hless : part ≠ f.encode) : read limit part = .incomplete := by
  obtain ⟨more, hmore⟩ := hpart
  have hwhole := read_encode hf []
  rw [List.append_nil, ← hmore] at hwhole
  cases hread : read limit part with
  | incomplete => rfl
  | refused fault => cases (read_refused_append more hread).symm.trans hwhole
  | frame g rest =>
    -- nothing is left when the frame is whole, so nothing was missing
    have hboth := (read_append more hread).symm.trans hwhole
    simp only [Reading.frame.injEq, List.append_eq_nil_iff] at hboth
    rw [hboth.2.2, List.append_nil] at hmore
    exact absurd hmore hless

/-- A ping or a pong within the limit of a reader is read as it is written. -/
theorem Interlude.readable {limit : Nat} {f : WireFrame} (h : f.Interlude)
    (hlimit : f.payload.length ≤ limit) : f.Readable limit := by
  have hshort : f.payload.length < 2 ^ 64 := Nat.lt_of_le_of_lt h.short (by decide)
  rcases h.plain with hplain | hplain
  · refine ⟨by rw [hplain.reserved]; decide, by rw [hplain.code]; rfl, ?_, hlimit, hshort⟩
    rw [hplain.mask]
    nofun
  · refine ⟨by rw [hplain.reserved]; decide, by rw [hplain.code]; rfl, ?_, hlimit, hshort⟩
    rw [hplain.mask]
    nofun

end WireFrame

end Carrier
