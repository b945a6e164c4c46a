import Carrier.Proofs.WebSocket.Stream

/-!
# What is refused

- `SocketFault.Refusal`: the faults with which octets can be refused.
- `Intake.read_refusal`: there are no others.
- `Intake.read_broken_append`: octets that are refused stay so when more come.
- `incoming_broken`, `incoming_incomplete`: they hold no message, nor does an incomplete frame.
-/

namespace Carrier

/-- The faults of octets that cannot be read. -/
inductive SocketFault.Refusal : SocketFault → Prop where
  | text : Refusal .invalidText
  | protocol (fault : ProtocolFault) : Refusal (.protocol fault)
  | long (size limit : Nat) : Refusal (.tooLong size limit)

/-! ### Faults of frames -/

namespace WireFrame

theorem readPayload_refusal {limit first length : Nat} {mask : Option Bytes} {bytes : Bytes}
    {fault : SocketFault} (h : readPayload limit first mask length bytes = .refused fault) :
    fault.Refusal := by
  simp only [readPayload] at h
  split at h
  · cases h
    exact .protocol _
  · split at h
    · cases h
      exact .long _ _
    · split at h <;> cases h

theorem read_refusal {limit : Nat} {bytes : Bytes} {fault : SocketFault}
    (h : read limit bytes = .refused fault) : fault.Refusal := by
  unfold read at h
  split at h
  · simp only at h
    split at h
    · cases h
    · split at h
      · exact readPayload_refusal h
      · split at h
        · cases h
        · exact readPayload_refusal h
  · cases h

end WireFrame

/-! ### Faults of messages -/

section Messages

variable {limit : Nat} {m : Fragments} {part : Bytes} {fault : SocketFault}

theorem Fragments.extend_refusal (h : m.extend limit part = .error fault) : fault.Refusal := by
  simp only [Fragments.extend] at h
  split at h
  · cases h
    exact .long _ _
  · split at h
    · cases h
    · split at h
      · cases h
      · cases h
        exact .text

theorem settleFragments_refusal {fin : Bool} (h : settleFragments fin m = .error fault) :
    fault.Refusal := by
  unfold settleFragments Fragments.complete at h
  split at h
  · cases hkind : m.kind with
    | binary => simp [hkind, Except.map] at h
    | text =>
      by_cases hstate : m.state = .boundary
      · simp [hkind, hstate, Except.map] at h
      · simp only [hkind, if_neg hstate, Except.map, Except.error.injEq] at h
        subst h
        exact .text
  · cases h

/-- One more part is refused as it comes, or as it completes the message. -/
theorem extend_settle_refusal {fin : Bool}
    (h : (m.extend limit part >>= settleFragments fin) = .error fault) : fault.Refusal := by
  cases hext : m.extend limit part with
  | error other =>
    rw [hext] at h
    cases h
    exact Fragments.extend_refusal hext
  | ok more =>
    rw [hext] at h
    exact settleFragments_refusal h

theorem readData_refusal {pending : Option Fragments} {f : WireFrame} {opcode : Opcode}
    (h : readData limit pending f opcode = .error fault) : fault.Refusal := by
  unfold readData at h
  split at h
  · cases h
    exact .protocol _
  · cases h
    exact .protocol _
  · exact extend_settle_refusal h
  · exact extend_settle_refusal h
  · exact extend_settle_refusal h
  · cases h
    exact .protocol _

theorem closeReply_refusal {payload : Bytes} (h : closeReply payload = .error fault) :
    fault.Refusal := by
  unfold closeReply at h
  split at h
  · cases h
  · cases h
    exact .protocol _
  · split at h
    · split at h <;> cases h
    · cases h
      exact .text

theorem readControl_refusal {f : WireFrame} {opcode : Opcode}
    (h : readControl f opcode = .error fault) : fault.Refusal := by
  unfold readControl at h
  split at h
  · cases h
    exact .protocol _
  · split at h
    · cases h
      exact .protocol _
    · split at h
      · cases h
      · cases h
      · cases hreply : closeReply f.payload with
        | ok reply => simp [hreply, Except.map] at h
        | error other =>
          simp only [hreply, Except.map, Except.error.injEq] at h
          subst h
          exact closeReply_refusal hreply

theorem acceptFrame_refusal {pending : Option Fragments} {f : WireFrame}
    (h : acceptFrame limit pending f = .error fault) : fault.Refusal := by
  unfold acceptFrame at h
  split at h
  · cases h
    exact .protocol _
  · split at h
    · cases h
      exact .protocol _
    · split at h
      · cases h
        exact .protocol _
      · rename_i opcode hcode
        split at h
        · cases hcontrol : readControl f opcode with
          | ok message => simp [hcontrol, Except.map] at h
          | error other =>
            simp only [hcontrol, Except.map, Except.error.injEq] at h
            subst h
            exact readControl_refusal hcontrol
        · exact readData_refusal h

end Messages

/-! ### Octets -/

namespace Intake

variable {limits : Limits} {pending : Option Fragments} {bytes : Bytes} {fault : SocketFault}

/-- Nothing can be read either because the next frame is refused, or because what it says is. -/
theorem read_eq_broken : read limits pending bytes = .broken fault ↔
    WireFrame.read limits.frame bytes = .refused fault ∨
      ∃ f rest, WireFrame.read limits.frame bytes = .frame f rest ∧
        acceptFrame limits.message pending f = .error fault := by
  unfold read
  cases hread : WireFrame.read limits.frame bytes with
  | incomplete => simp
  | refused other => simp
  | frame f rest =>
    cases haccept : acceptFrame limits.message pending f with
    | error other => simp [haccept]
    | ok result => simp [haccept]

theorem read_refusal (h : read limits pending bytes = .broken fault) : fault.Refusal := by
  rcases read_eq_broken.mp h with hread | ⟨f, rest, -, haccept⟩
  · exact WireFrame.read_refusal hread
  · exact acceptFrame_refusal haccept

/-- Octets that are refused stay so when more come. -/
theorem read_broken_append (more : Bytes) (h : read limits pending bytes = .broken fault) :
    read limits pending (bytes ++ more) = .broken fault := by
  rcases read_eq_broken.mp h with hread | ⟨f, rest, hread, haccept⟩
  · exact read_eq_broken.mpr (.inl (WireFrame.read_refused_append more hread))
  · exact read_eq_broken.mpr (.inr ⟨f, rest ++ more, WireFrame.read_append more hread, haccept⟩)

theorem read_eq_incomplete : read limits pending bytes = .incomplete ↔
    WireFrame.read limits.frame bytes = .incomplete := by
  unfold read
  cases hread : WireFrame.read limits.frame bytes with
  | incomplete => simp
  | refused other => simp
  | frame f rest =>
    cases haccept : acceptFrame limits.message pending f with
    | error other => simp [haccept]
    | ok result => simp [haccept]

end Intake

section Messages

variable {limits : Limits} {pending : Option Fragments} {bytes : Bytes}

theorem incoming_stuck (h : ∀ f rest, WireFrame.read limits.frame bytes ≠ .frame f rest) :
    incoming limits pending bytes = [] := by
  rw [incoming, WireFrame.all_stuck h]
  rfl

/-- Octets that are refused hold no message. -/
theorem incoming_broken {fault : SocketFault}
    (h : Intake.read limits pending bytes = .broken fault) :
    incoming limits pending bytes = [] := by
  rcases Intake.read_eq_broken.mp h with hread | ⟨f, rest, hread, haccept⟩
  · exact incoming_stuck fun f rest => by simp [hread]
  · rw [incoming, WireFrame.all_frame hread, assemble, haccept]

/-- A frame that is not complete says nothing. -/
theorem incoming_incomplete (h : Intake.read limits pending bytes = .incomplete) :
    incoming limits pending bytes = [] :=
  incoming_stuck fun f rest => by simp [Intake.read_eq_incomplete.mp h]

end Messages

end Carrier
