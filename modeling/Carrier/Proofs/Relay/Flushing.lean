import Carrier.Proofs.Relay.Session

/-!
# Handing messages over, and flushing

- `Relay.deliver_done`, `Relay.deliver_failed`: what the application has of a message.
- `Relay.Failed`: a message could not be handed over.
- `Relay.Unflushed`: nothing was handed over since flushing began to fail.
- `Relay.session_unflushed`: so it is in every session.
-/

namespace Carrier

namespace Relay

/-! ### One message -/

theorem flush_done {app : Application} {writes written : List Bytes}
    (h : flush app writes = .done written) : written = writes ∧ app.flushFault = none := by
  unfold flush at h
  split at h
  · cases h
  · rename_i hnone
    cases h
    exact ⟨rfl, hnone⟩

theorem flush_failed {app : Application} {writes written : List Bytes} {fault : IoFault}
    (h : flush app writes = .failed fault written) :
    written = writes ∧ app.flushFault = some fault := by
  unfold flush at h
  split at h
  · rename_i hsome
    cases h
    exact ⟨rfl, hsome⟩
  · cases h

/-- A message that was handed over has been written and flushed. -/
theorem deliver_done {app : Application} {payload : Bytes} {writes : List Bytes}
    (h : deliver app payload = .done writes) :
    writes.flatten = payload ∧ app.flushFault = none := by
  unfold deliver at h
  split at h
  · rename_i hempty
    obtain ⟨rfl, hflush⟩ := flush_done h
    exact ⟨(List.isEmpty_iff.mp hempty).symm, hflush⟩
  · split at h
    · cases h
    · split at h
      · cases h
      · split at h
        · cases h
        · obtain ⟨rfl, hflush⟩ := flush_done h
          exact ⟨Bytes.pieces_flatten _ _, hflush⟩

/-- Of a message that was not handed over the application may have the beginning. -/
theorem deliver_failed {app : Application} {payload : Bytes} {fault : IoFault}
    {writes : List Bytes} (h : deliver app payload = .failed fault writes) :
    writes.flatten <+: payload := by
  unfold deliver at h
  split at h
  · rw [(flush_failed h).1]
    exact List.nil_prefix
  · split at h
    · cases h
      exact List.nil_prefix
    · split at h
      · cases h
        exact List.nil_prefix
      · split at h
        · cases h
        · have hwritten : writes.flatten = payload := by
            rw [(flush_failed h).1, Bytes.pieces_flatten]
          exact hwritten.symm ▸ List.prefix_rfl

/-! ### When flushing fails -/

/-- The relay ended because a message could not be handed over. -/
def Failed (r : Relay) : Prop := ∃ fault, r.cause = some (.localWriteFailed fault)

theorem Failed.ended {r : Relay} (h : r.Failed) : r.cause ≠ none := by
  obtain ⟨fault, hcause⟩ := h
  rw [hcause]
  exact Option.some_ne_none _

theorem Ends.toLocal {r s : Relay} {cause : Cause} {writes : List Bytes}
    (h : r.Ends cause writes s) : s.toLocal = r.toLocal := by
  cases h <;> rfl

/-- Without flushing no message is handed over, and an attempt ends the relay. -/
theorem Move.unflushed {r s : Relay} {t : Traffic} (h : Move r t s)
    (hfault : r.app.flushFault ≠ none) : s.toLocal = r.toLocal ∧ (t.writes = [] ∨ s.Failed) := by
  cases h with
  | handed hheld hdel => exact absurd (deliver_done hdel).2 hfault
  | @ended cause writes q hend =>
    have hcount : (q.finish cause).1.toLocal = r.toLocal := hend.toLocal
    refine ⟨hcount, ?_⟩
    cases hend with
    | @writeFailed payload fault writes hheld hdel => exact .inr ⟨fault, rfl⟩
    | _ => exact .inl (by simp [Traffic.written])
  | _ => exact ⟨rfl, .inl rfl⟩

theorem Moves.unflushed {r s : Relay} {t : Traffic} (h : Moves r t s)
    (hfault : r.app.flushFault ≠ none) : s.toLocal = r.toLocal ∧ (t.writes = [] ∨ s.Failed) := by
  induction h with
  | refl r => exact ⟨rfl, .inl rfl⟩
  | @next r s q t u hrun hmove hrest ih =>
    obtain ⟨hcount, hwrites⟩ := hmove.unflushed hfault
    rcases hwrites with hwrites | hfailed
    · have hsame : s.app.flushFault ≠ none := by
        rw [hmove.keeps.app]
        exact hfault
      obtain ⟨hcount', hwrites'⟩ := ih hsame
      refine ⟨hcount'.trans hcount, hwrites'.imp_left fun h => ?_⟩
      rw [Traffic.writes_followedBy, hwrites, h]
      rfl
    · -- a relay that has failed makes no more moves
      cases hrest with
      | refl => exact ⟨hcount, .inr hfailed⟩
      | next hrun' => exact absurd hrun' hfailed.ended

theorem absorb_flushFault {r : Relay} {e : Event} (h : (r.absorb e).app.flushFault = none) :
    r.app.flushFault = none := by
  cases e with
  | localFlushFault fault => cases h
  | remoteBytes data =>
    simp only [absorb] at h
    split at h <;> exact h
  | _ => exact h

/-- `Unflushed n writes q t`: flushing fails, and since `n` octets had been counted and `writes`
had been made nothing more has been counted, and nothing more was written unless the relay
failed. -/
structure Unflushed (n : Nat) (writes : List Bytes) (q : Relay) (t : Traffic) : Prop where
  fault : q.cause = none → q.app.flushFault ≠ none
  counted : q.toLocal = n
  written : t.writes = writes ∨ q.Failed

/-- An event changes nothing of this if flushing fails when it happens. -/
theorem Unflushed.step {n : Nat} {writes : List Bytes} {q : Relay} {t : Traffic} {e : Event}
    (hfault : q.cause = none → (q.absorb e).app.flushFault ≠ none) (hcount : q.toLocal = n)
    (hwritten : t.writes = writes ∨ q.Failed) :
    Unflushed n writes (q.step e).1 (t.followedBy (q.step e).2) := by
  by_cases hrun : q.cause = none
  · have hsofar : t.writes = writes := hwritten.resolve_right fun h => h.ended hrun
    by_cases he : e = .cancel
    · subst he
      rw [step_cancel hrun]
      refine ⟨fun hc => (by cases hc), hcount, .inl ?_⟩
      rw [Traffic.writes_followedBy, finish_writes, List.append_nil, hsofar]
    · rw [step_settle hrun he]
      have hmoves := settle_moves (r := q.absorb e) (by rw [absorb_cause, hrun])
      obtain ⟨hcount', hwrites⟩ := hmoves.unflushed (hfault hrun)
      refine ⟨fun _ => ?_, ?_, hwrites.imp_left fun h => ?_⟩
      · rw [hmoves.keeps.app]
        exact hfault hrun
      · rw [hcount', absorb_eq]
        exact hcount
      · rw [Traffic.writes_followedBy, h, List.append_nil, hsofar]
  · rw [step_ended hrun, Traffic.followedBy_none]
    exact ⟨fun hc => absurd hc hrun, hcount, hwritten⟩

/-- Once flushing fails nothing more is counted, and nothing more is written unless the relay
fails. -/
theorem session_unflushed (r : Relay) (front rest : List Event) (fault : IoFault) :
    let before := r.session front
    Unflushed before.1.toLocal before.2.writes
      (r.session (front ++ .localFlushFault fault :: rest)).1
      (r.session (front ++ .localFlushFault fault :: rest)).2 := by
  intro before
  induction rest using List.reverseRecOn with
  | nil =>
    rw [session_snoc]
    exact Unflushed.step (fun _ => Option.some_ne_none fault) rfl (.inl rfl)
  | append_singleton rest e ih =>
    rw [← List.cons_append, ← List.append_assoc, session_snoc]
    exact Unflushed.step (fun hrun hflush => ih.fault hrun (absorb_flushFault hflush)) ih.counted
      ih.written

end Relay

end Carrier
