import Carrier.Proofs.Relay.Session

/-!
# The end of a relay

Whatever ends a relay, the same teardown follows: the application's side is shut down once, one
close frame is sent if the other end is still there, and the socket is let go.

- `Relay.Teardown`: how far the teardown is, in terms of the state and of the traffic so far.
- `Relay.session_dropped`: the transport is gone if the other end went while the relay ran.
- `Relay.session_teardown`: the teardown of every session.
-/

namespace Carrier

theorem Cause.closeFrame_opcode (cause : Cause) : cause.closeFrame.opcode = .close := by
  cases cause <;> rfl

namespace Relay

/-! ### Ending -/

/-- The teardown of a relay with the traffic so far: none while it runs, and one once it has
ended. -/
structure Teardown (r : Relay) (t : Traffic) : Prop where
  running : r.cause = none →
    r.shutdowns = 0 ∧ r.letGo = false ∧ ∀ f ∈ t.frames, f.opcode ≠ .close
  ended : ∀ cause, r.cause = some cause →
    r.shutdowns = 1 ∧ r.letGo = true ∧
      ∃ front, t.frames = front ++ (if r.wire.dropped then [] else [cause.closeFrame]) ∧
        ∀ f ∈ front, f.opcode ≠ .close

/-- A relay that has not been torn down yet is torn down by its end. -/
theorem Teardown.finish {r s : Relay} {t u : Traffic} (h : Teardown r t) (hrun : r.cause = none)
    (hshut : s.shutdowns = r.shutdowns) (hframes : u.frames = []) (cause : Cause) :
    Teardown (s.finish cause).1 (t.followedBy (u.followedBy (s.finish cause).2)) := by
  obtain ⟨hnone, -, hquiet⟩ := h.running hrun
  refine ⟨fun hc => ?_, fun c hc => ⟨?_, rfl, t.frames, ?_, hquiet⟩⟩
  · rw [finish_cause] at hc
    cases hc
  · show s.shutdowns + 1 = 1
    rw [hshut, hnone]
  · rw [finish_cause] at hc
    cases hc
    rw [Traffic.frames_followedBy, Traffic.frames_followedBy, hframes, finish_frames]
    rfl

theorem Ends.shutdowns {r s : Relay} {cause : Cause} {writes : List Bytes}
    (h : r.Ends cause writes s) : s.shutdowns = r.shutdowns := by
  cases h <;> rfl

/-- A move that does not end a relay sends no close frame. -/
theorem Teardown.quiet {r s : Relay} {t u : Traffic} (h : Teardown r t) (hrun : r.cause = none)
    (hcause : s.cause = r.cause) (hshut : s.shutdowns = r.shutdowns) (hsocket : s.letGo = r.letGo)
    (hquiet : ∀ f ∈ u.frames, f.opcode ≠ .close) : Teardown s (t.followedBy u) := by
  obtain ⟨hnone, hheld, hbefore⟩ := h.running hrun
  refine ⟨fun _ => ⟨hshut.trans hnone, hsocket.trans hheld, ?_⟩, fun cause hc => ?_⟩
  · intro f hf
    rcases List.mem_append.mp hf with hf | hf
    · exact hbefore f hf
    · exact hquiet f hf
  · rw [hcause, hrun] at hc
    cases hc

theorem Teardown.move {r s : Relay} {t u : Traffic} (h : Teardown r t) (hrun : r.cause = none)
    (hmove : Move r u s) : Teardown s (t.followedBy u) := by
  cases hmove with
  | sent hopen =>
    refine h.quiet hrun rfl rfl rfl fun f hf => ?_
    obtain ⟨payload, -, rfl⟩ := List.mem_map.mp hf
    exact Opcode.noConfusion
  | skipped hread hnone => exact h.quiet hrun rfl rfl rfl fun f hf => by cases hf
  | answered hread hopen =>
    refine h.quiet hrun rfl rfl rfl fun f hf => ?_
    rw [List.mem_singleton.mp hf]
    exact Opcode.noConfusion
  | received hread => exact h.quiet hrun rfl rfl rfl fun f hf => by cases hf
  | handed hheld hdel => exact h.quiet hrun rfl rfl rfl fun f hf => by cases hf
  | ended hend => exact h.finish hrun hend.shutdowns rfl _

theorem Teardown.absorb {r : Relay} {t : Traffic} (h : Teardown r t) (hrun : r.cause = none)
    (e : Event) : Teardown (r.absorb e) t := by
  have := h.quiet (s := r.absorb e) (u := Traffic.none) hrun (by rw [absorb_eq])
    (by rw [absorb_eq]) (by rw [absorb_eq]) fun f hf => by cases hf
  rwa [Traffic.followedBy_none] at this

/-! ### The other end goes -/

theorem absorb_dropped (r : Relay) (e : Event) :
    (r.absorb e).wire.dropped = true ↔ r.wire.dropped = true ∨ e = .remoteDrop := by
  cases e with
  | remoteBytes data =>
    simp only [absorb]
    split <;> simp
  | remoteDrop => simp [absorb]
  | _ => simp [absorb]

theorem step_dropped {r : Relay} (h : r.cause = none) (e : Event) :
    (r.step e).1.wire.dropped = true ↔ r.wire.dropped = true ∨ e = .remoteDrop := by
  by_cases he : e = .cancel
  · subst he
    rw [step_cancel h]
    simp [finish]
  · rw [step_settle h he]
    have hrun : (r.absorb e).cause = none := by rw [absorb_cause, h]
    rw [(settle_moves hrun).keeps.dropped, absorb_dropped]

/-- The transport of a session is gone exactly if the other end went while the relay ran. -/
theorem session_dropped {r : Relay} (hrun : r.cause = none) (hopen : r.wire.dropped = false)
    (script : List Event) :
    (r.session script).1.wire.dropped = true ↔
      ∃ front rest, script = front ++ .remoteDrop :: rest ∧
        (r.session front).1.cause = none := by
  induction script using List.reverseRecOn with
  | nil =>
    rw [session_nil, (settle_moves hrun).keeps.dropped, hopen]
    simp
  | append_singleton es e ih =>
    rw [session_snoc]
    -- the last event is the one that counts, or it is not and some earlier one is
    have hsnoc : (∃ front rest, es ++ [e] = front ++ Event.remoteDrop :: rest ∧
          (r.session front).1.cause = none) ↔
        (∃ front rest, es = front ++ Event.remoteDrop :: rest ∧
          (r.session front).1.cause = none) ∨
        (e = .remoteDrop ∧ (r.session es).1.cause = none) := by
      constructor
      · rintro ⟨front, rest, heq, hfront⟩
        rcases List.eq_nil_or_concat rest with rfl | ⟨rest, last, rfl⟩
        · obtain ⟨rfl, he⟩ := List.append_inj' heq rfl
          exact .inr ⟨List.singleton_inj.mp he, hfront⟩
        · rw [List.concat_eq_append, ← List.cons_append, ← List.append_assoc] at heq
          exact .inl ⟨front, rest, (List.append_inj' heq rfl).1, hfront⟩
      · rintro (⟨front, rest, rfl, hfront⟩ | ⟨rfl, hes⟩)
        · exact ⟨front, rest ++ [e], by simp, hfront⟩
        · exact ⟨es, [], rfl, hes⟩
    rw [hsnoc, ← ih]
    by_cases hcause : (r.session es).1.cause = none
    · rw [step_dropped hcause]
      simp [hcause]
    · rw [step_ended hcause]
      simp [hcause]

/-! ### The teardown of a session -/

/-- A relay is torn down exactly once. Until it ends, for whatever cause, it has sent no close
frame and has neither shut the application's side down nor let its socket go. When it has ended it
has done both, once, and the last of its frames is the only close frame, unless the other end went
while the relay ran: then there is none. What happens afterwards changes nothing any more. -/
theorem session_teardown (limits : Limits) (deadline : Option Duration) (script : List Event) :
    let begun : Relay := { limits := limits, deadline := deadline }
    let r := (begun.session script).1
    let t := (begun.session script).2
    (r.cause = none →
      r.shutdowns = 0 ∧ r.letGo = false ∧ ∀ f ∈ t.frames, f.opcode ≠ .close) ∧
    (∀ cause, r.cause = some cause →
      r.shutdowns = 1 ∧ r.letGo = true ∧
      (∃ front, t.frames = front ++ (if r.wire.dropped then [] else [cause.closeFrame]) ∧
        ∀ f ∈ front, f.opcode ≠ .close) ∧
      cause.closeFrame.opcode = .close ∧
      ∀ more, begun.session (script ++ more) = (r, t)) ∧
    (r.wire.dropped = true ↔
      ∃ front rest, script = front ++ .remoteDrop :: rest ∧
        (begun.session front).1.cause = none) := by
  intro begun r t
  have hteardown : Teardown r t := by
    refine session_induction (P := fun _ => Teardown) rfl ?_ ?_ ?_ ?_ ?_ script
    · exact ⟨fun _ => ⟨rfl, rfl, fun f hf => by cases hf⟩, fun cause hc => by cases hc⟩
    · exact fun hrun h hmove => h.move hrun hmove
    · exact fun hrun _ h _ => h.absorb hrun _
    · intro es q t hrun _ h
      exact h.finish (u := Traffic.none) hrun rfl rfl .cancelled
    · exact fun _ h => h
  refine ⟨hteardown.running, fun cause hc => ?_, session_dropped rfl rfl script⟩
  obtain ⟨hshut, hsocket, hframes⟩ := hteardown.ended cause hc
  refine ⟨hshut, hsocket, hframes, cause.closeFrame_opcode, fun more => ?_⟩
  have hended : (begun.session script).1.cause ≠ none := by
    intro hnone
    rw [hnone] at hc
    cases hc
  rw [session_append, run_ended hended, Traffic.followedBy_none]

end Relay

end Carrier
