import Carrier.Proofs.WebSocket.Conversation
import Carrier.Proofs.WebSocket.Wire

/-!
# The messages in a stream of octets

- `WireFrame.all`: the frames that octets hold, as far as they can be read.
- `incoming`: the payloads of the data messages that octets hold.
- `Passes`: reading octets frame by frame, up to some place.
- `Passes.incoming`: the messages passed are the first of those that the octets hold.
- `incoming_mono`: octets that come later only add messages.
-/

namespace Carrier

namespace WireFrame

/-- The frames that octets hold, up to the first that is incomplete or cannot be read. -/
def all (limit : Nat) (bytes : Bytes) : List WireFrame :=
  match _h : read limit bytes with
  | .frame f rest => f :: all limit rest
  | _ => []
termination_by bytes.length
decreasing_by exact read_shorter _h

theorem all_frame {limit : Nat} {bytes rest : Bytes} {f : WireFrame}
    (h : read limit bytes = .frame f rest) : all limit bytes = f :: all limit rest := by
  rw [all]
  split
  · rename_i g after hread
    cases h.symm.trans hread
    rfl
  · rename_i hread
    exact absurd h (hread f rest)

theorem all_stuck {limit : Nat} {bytes : Bytes} (h : ∀ f rest, read limit bytes ≠ .frame f rest) :
    all limit bytes = [] := by
  rw [all]
  split
  · rename_i f rest hread
    exact absurd hread (h f rest)
  · rfl

/-- Frames that have been read stay when more octets come. -/
theorem all_mono (limit : Nat) (bytes more : Bytes) :
    all limit bytes <+: all limit (bytes ++ more) := by
  induction hn : bytes.length using Nat.strongRecOn generalizing bytes with
  | _ n ih =>
    subst hn
    by_cases hread : ∃ f rest, read limit bytes = .frame f rest
    · obtain ⟨f, rest, hread⟩ := hread
      rw [all_frame hread, all_frame (read_append more hread)]
      exact List.prefix_cons_inj f |>.mpr (ih rest.length (read_shorter hread) rest rfl)
    · rw [all_stuck fun f rest h => hread ⟨f, rest, h⟩]
      exact List.nil_prefix

/-- Frames that are written one after the other are read back. -/
theorem all_encode {limit : Nat} {fs : List WireFrame} (h : ∀ f ∈ fs, f.Readable limit)
    (rest : Bytes) : all limit (fs.flatMap encode ++ rest) = fs ++ all limit rest := by
  induction fs with
  | nil => rfl
  | cons f fs ih =>
    rw [List.flatMap_cons, List.append_assoc,
      all_frame (read_encode (h f List.mem_cons_self) _),
      ih fun g hg => h g (List.mem_cons_of_mem f hg)]
    rfl

end WireFrame

theorem assemble_mono (limit : Nat) (pending : Option Fragments) {fs gs : List WireFrame}
    (h : fs <+: gs) : assemble limit pending fs <+: assemble limit pending gs := by
  obtain ⟨more, rfl⟩ := h
  induction fs generalizing pending with
  | nil => exact List.nil_prefix
  | cons f fs ih =>
    rw [List.cons_append, assemble, assemble]
    split
    · exact List.nil_prefix
    · exact List.nil_prefix
    · exact (List.prefix_append_right_inj _).mpr (ih _)

/-- The payloads of the data messages that octets hold, where some frames of a message may have
come before, up to the first close frame and to the first frame that cannot be read or is
refused. -/
def incoming (limits : Limits) (pending : Option Fragments) (bytes : Bytes) : List Bytes :=
  assemble limits.message pending (WireFrame.all limits.frame bytes)

/-- Octets that come later only add messages. -/
theorem incoming_mono (limits : Limits) (pending : Option Fragments) (bytes more : Bytes) :
    incoming limits pending bytes <+: incoming limits pending (bytes ++ more) :=
  assemble_mono _ _ (WireFrame.all_mono _ _ _)

/-! ### Reading frame by frame -/

namespace Intake

theorem read_eq_frame {limits : Limits} {pending open? : Option Fragments} {bytes rest : Bytes}
    {message : Option Message} :
    read limits pending bytes = .frame open? message rest ↔
      ∃ f, WireFrame.read limits.frame bytes = .frame f rest ∧
        acceptFrame limits.message pending f = .ok (open?, message) := by
  constructor
  · intro h
    unfold read at h
    cases hread : WireFrame.read limits.frame bytes with
    | incomplete => simp [hread] at h
    | refused fault => simp [hread] at h
    | frame f after =>
      cases haccept : acceptFrame limits.message pending f with
      | error fault => simp [hread, haccept] at h
      | ok result =>
        simp only [hread, haccept, Intake.frame.injEq] at h
        obtain ⟨rfl, rfl, rfl⟩ := h
        exact ⟨f, rfl, haccept⟩
  · rintro ⟨f, hread, haccept⟩
    simp [read, hread, haccept]

theorem read_append {limits : Limits} {pending open? : Option Fragments} {bytes rest : Bytes}
    {message : Option Message} (more : Bytes)
    (h : read limits pending bytes = .frame open? message rest) :
    read limits pending (bytes ++ more) = .frame open? message (rest ++ more) := by
  obtain ⟨f, hread, haccept⟩ := read_eq_frame.mp h
  exact read_eq_frame.mpr ⟨f, WireFrame.read_append more hread, haccept⟩

/-- A message that is no data comes in a frame of its own kind. -/
theorem read_control {limits : Limits} {pending open? : Option Fragments} {bytes rest : Bytes}
    {message : Message} {opcode : Opcode}
    (h : read limits pending bytes = .frame open? (some message) rest)
    (hcontrol : message.control? = some opcode) :
    ∃ f, WireFrame.read limits.frame bytes = .frame f rest ∧ f.Plain opcode := by
  obtain ⟨f, hread, haccept⟩ := read_eq_frame.mp h
  exact ⟨f, hread, acceptFrame_control haccept rfl hcontrol⟩

end Intake

/-- A frame of a kind other than close completes the next message, or none. -/
theorem incoming_frame {limits : Limits} {pending open? : Option Fragments} {bytes rest : Bytes}
    {message : Option Message} (h : Intake.read limits pending bytes = .frame open? message rest)
    (hclose : ∀ reply, message ≠ some (.close reply)) :
    incoming limits pending bytes = completed message ++ incoming limits open? rest := by
  obtain ⟨f, hread, haccept⟩ := Intake.read_eq_frame.mp h
  rw [incoming, WireFrame.all_frame hread, assemble_ok haccept hclose]
  rfl

/-- There are no messages after a close frame. -/
theorem incoming_close {limits : Limits} {pending open? : Option Fragments}
    {bytes rest reply : Bytes}
    (h : Intake.read limits pending bytes = .frame open? (some (.close reply)) rest) :
    incoming limits pending bytes = [] := by
  obtain ⟨f, hread, haccept⟩ := Intake.read_eq_frame.mp h
  rw [incoming, WireFrame.all_frame hread, assemble, haccept]

/-- `Passes limits p bytes payloads q rest`: with the fragments `p`, reading `bytes` passes the
messages `payloads`, and comes to `rest` with the fragments `q`. -/
inductive Passes (limits : Limits) (p : Option Fragments) (bytes : Bytes) :
    List Bytes → Option Fragments → Bytes → Prop where
  | start : Passes limits p bytes [] p bytes
  | frame {payloads : List Bytes} {q q' : Option Fragments} {rest rest' : Bytes}
    {message : Option Message} (h : Passes limits p bytes payloads q rest)
    (hread : Intake.read limits q rest = .frame q' message rest')
    (hclose : ∀ reply, message ≠ some (.close reply)) :
    Passes limits p bytes (payloads ++ completed message) q' rest'

namespace Passes

variable {limits : Limits} {p q : Option Fragments} {bytes rest : Bytes} {payloads : List Bytes}

/-- What has been passed stays passed when more octets come. -/
theorem append (h : Passes limits p bytes payloads q rest) (more : Bytes) :
    Passes limits p (bytes ++ more) payloads q (rest ++ more) := by
  induction h with
  | start => exact .start
  | frame h hread hclose ih => exact .frame ih (Intake.read_append more hread) hclose

/-- The messages passed are the first of those that the octets hold. -/
theorem incoming (h : Passes limits p bytes payloads q rest) :
    incoming limits p bytes = payloads ++ Carrier.incoming limits q rest := by
  induction h with
  | start => rfl
  | frame h hread hclose ih => rw [ih, incoming_frame hread hclose, List.append_assoc]

/-- The frames passed are the first of those that the octets hold. -/
theorem all (h : Passes limits p bytes payloads q rest) :
    ∃ fs, WireFrame.all limits.frame bytes = fs ++ WireFrame.all limits.frame rest := by
  induction h with
  | start => exact ⟨[], rfl⟩
  | frame h hread hclose ih =>
    obtain ⟨fs, hfs⟩ := ih
    obtain ⟨f, hread, -⟩ := Intake.read_eq_frame.mp hread
    refine ⟨fs ++ [f], ?_⟩
    rw [hfs, WireFrame.all_frame hread, List.append_assoc]
    rfl

end Passes

end Carrier
