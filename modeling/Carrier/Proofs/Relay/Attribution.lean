import Carrier.Proofs.Relay.Causes
import Carrier.Proofs.Relay.Gone
import Carrier.Proofs.Relay.Indifference
import Carrier.Proofs.WebSocket.Refusal

/-!
# What relays report

The result of a relay names what ended it.

- `Relay.Attributed`: what has happened when a relay reports a result.
- `Relay.session_attributed`: so it is in every session, whatever happens when the relay shuts the
  application's side down and closes the WebSocket.
-/

namespace Carrier

/-- Shutting the application's side down fails from now on. -/
def Event.failsShutdown : Event → Bool
  | .localShutdownFault _ => true
  | _ => false

namespace Relay

/-- `Attributed limits deadline es t result`: what has happened in the script `es` when a relay
with the traffic `t` reports `result`. -/
structure Attributed (limits : Limits) (deadline : Option Duration) (es : List Event)
    (t : Traffic) (result : Except TunnelError Summary) : Prop where
  /-- The application's data have come to their end. -/
  localClosed : ∀ s, result = .ok s → s.ending = .localClosed → Event.dataEnd? es = some .eof
  /-- A close frame follows the messages that were handed over. -/
  remoteClosed : ∀ s, result = .ok s → s.ending = .remoteClosed →
    ∃ done p rest f after, Passes limits none (Event.arrived es) done p rest ∧
      t.delivered = done.flatten ∧ WireFrame.read limits.frame rest = .frame f after ∧
      f.Plain .close
  /-- The relay was called off just now. -/
  cancelled : ∀ s, result = .ok s → s.ending = .cancelled → es.getLast? = some .cancel
  /-- Reading from the application failed with this fault. -/
  localRead : ∀ fault, result = .error (.relayIo .toRemote fault) →
    Event.dataEnd? es = some (.failed fault)
  /-- A message that has come cannot be handed over with this fault. -/
  localWrite : ∀ fault, result = .error (.relayIo .toLocal fault) →
    ∃ payload ∈ incoming limits none (Event.arrived es), Undeliverable es payload fault
  /-- The transport is gone, and there is a chunk left to send. -/
  remoteWrite : ∀ fault, result = .error (.relaySocket .toRemote fault) →
    fault = sendFault ∧ .remoteDrop ∈ es ∧
      ∃ chunk, t.sent ++ [chunk] <+: cut (Event.written es)
  /-- Behind the messages that were handed over no more can be read, with this fault. -/
  remoteRead : ∀ fault, result = .error (.relaySocket .toLocal fault) →
    (∃ done p rest, Passes limits none (Event.arrived es) done p rest ∧
      t.delivered = done.flatten ∧ Unreadable limits es p rest fault) ∧
    fault ≠ .closed ∧ fault ≠ .alreadyClosed
  /-- The time allowed is over. -/
  deadline : ∀ limit, result = .error (.deadlineExceeded limit) →
    deadline = some limit ∧ limit ≤ Event.elapsed es
  /-- There are no other errors. -/
  error : ∀ fault, result = .error fault →
    (∃ direction fault', fault = .relayIo direction fault') ∨
      (∃ direction fault', fault = .relaySocket direction fault') ∨
      ∃ limit, fault = .deadlineExceeded limit

section Reports

variable {limits : Limits} {deadline : Option Duration} {es : List Event} {t : Traffic}

/-- Reading fails, but not because the WebSocket had been closed. -/
theorem Unreadable.unclosed {p : Option Fragments} {rest : Bytes} {fault : SocketFault}
    (h : Unreadable limits es p rest fault) : fault ≠ .closed ∧ fault ≠ .alreadyClosed := by
  cases h with
  | refused hread =>
    cases Intake.read_refusal hread <;> exact ⟨nofun, nofun⟩
  | ended hread hdrop => exact ⟨nofun, nofun⟩
  | unanswered hread hdrop => exact ⟨nofun, nofun⟩

/-- What a relay reports when it ends is what it had grounds for. -/
theorem Grounds.attributed {cause : Cause} (h : Grounds limits deadline es t cause)
    (toRemote toLocal : Nat) : Attributed limits deadline es t (cause.result toRemote toLocal) where
  localClosed s hs hending := by
    cases h with
    | localEof hend => exact hend
    | _ => cases hs <;> cases hending
  remoteClosed s hs hending := by
    cases h with
    | remoteClosed hpasses hdone hread =>
      obtain ⟨f, hframe, hplain⟩ := Intake.read_control hread rfl
      exact ⟨_, _, _, f, _, hpasses, hdone, hframe, hplain⟩
    | _ => cases hs <;> cases hending
  cancelled s hs hending := by
    cases h with
    | cancelled hlast => exact hlast
    | _ => cases hs <;> cases hending
  localRead fault hresult := by
    cases h with
    | localReadFailed hend =>
      cases hresult
      exact hend
    | _ => cases hresult
  localWrite fault hresult := by
    cases h with
    | @localWriteFailed done payload rest p fault hpasses hfault =>
      cases hresult
      refine ⟨payload, ?_, hfault⟩
      rw [hpasses.incoming]
      simp
    | _ => cases hresult
  remoteWrite fault hresult := by
    cases h with
    | @remoteSendFailed chunk chunks hdrop hunsent =>
      cases hresult
      refine ⟨rfl, hdrop, chunk, chunks, ?_⟩
      rw [List.append_assoc]
      exact hunsent
    | _ => cases hresult
  remoteRead fault hresult := by
    cases h with
    | remoteReadFailed hpasses hdone hfault =>
      cases hresult
      exact ⟨⟨_, _, _, hpasses, hdone, hfault⟩, hfault.unclosed⟩
    | _ => cases hresult
  deadline limit hresult := by
    cases h with
    | deadline hlimit hle =>
      cases hresult
      exact ⟨hlimit, hle⟩
    | _ => cases hresult
  error fault hresult := by
    cases cause with
    | localReadFailed fault' => exact .inl ⟨_, _, (Except.error.inj hresult).symm⟩
    | localWriteFailed fault' => exact .inl ⟨_, _, (Except.error.inj hresult).symm⟩
    | remoteReadFailed fault' => exact .inr (.inl ⟨_, _, (Except.error.inj hresult).symm⟩)
    | remoteSendFailed fault' => exact .inr (.inl ⟨_, _, (Except.error.inj hresult).symm⟩)
    | deadline limit => exact .inr (.inr ⟨_, (Except.error.inj hresult).symm⟩)
    | _ => cases hresult

end Reports

/-- A relay reports what ended it, with which the script up to that moment agrees. Whether the
application's side can be shut down changes nothing about what it sends and reports; and when the
transport goes, so that the WebSocket cannot be closed, it reports what it would have reported,
unless reading or sending failed before. -/
theorem session_attributed (limits : Limits) (deadline : Option Duration) (script : List Event) :
    let begun : Relay := { limits := limits, deadline := deadline }
    (∀ result, (begun.session script).1.result? = some result →
      ∃ front rest, script = front ++ rest ∧ begun.session front = begun.session script ∧
        Attributed limits deadline front (begun.session front).2 result) ∧
    (∀ other : List Event,
      other.filter (!·.failsShutdown) = script.filter (!·.failsShutdown) →
        (begun.session other).1.result? = (begun.session script).1.result? ∧
        (begun.session other).2.frames = (begun.session script).2.frames ∧
        (begun.session other).2.delivered = (begun.session script).2.delivered) ∧
    (∀ front more, script = front ++ more → (∀ e ∈ more, e.octets = []) →
      (begun.session (front ++ .remoteDrop :: more)).1.result? = (begun.session script).1.result? ∨
      ∃ direction fault, (begun.session (front ++ .remoteDrop :: more)).1.result?
          = some (.error (.relaySocket direction fault)) ∧
        (fault = sendFault ∨ fault = .protocol .resetWithoutClose)) := by
  intro begun
  refine ⟨fun result hresult => ?_, fun other hother => ?_, fun front more hscript hmore => ?_⟩
  · obtain ⟨front, rest, hscript, hsame, -, haccount⟩ := session_account limits deadline script
    obtain ⟨cause, hcause, rfl⟩ := Option.map_eq_some_iff.mp hresult
    refine ⟨front, rest, hscript, hsame, ?_⟩
    have hgrounds := haccount.grounds cause hcause
    rw [← hsame] at hgrounds
    exact hgrounds.attributed _ _
  · -- both sessions do what the session without these events does
    have htuning : ∀ e : Event, (!e.failsShutdown) = false → e.isTuning = true := by
      intro e he
      cases e with
      | localShutdownFault fault => rfl
      | _ => cases he
    have hfirst := session_filter htuning begun other
    have hthen := session_filter htuning begun script
    rw [hother] at hfirst
    have halike := hthen.symm.trans hfirst
    exact ⟨halike.result, halike.frames, halike.delivered⟩
  · rw [hscript]
    refine (session_gone begun front hmore).imp_right ?_
    rintro ⟨cause, hcause, hcut⟩
    obtain ⟨direction, fault, hresult, hfault⟩ := hcut.result _ _
    exact ⟨direction, fault, by rw [result?, hcause, Option.map_some, hresult], hfault⟩

end Relay

end Carrier
