import Carrier.Proofs.Relay.Script

/-!
# Relays without their transport

When the other end goes, a relay does what it would have done, until it wants to read or send and
cannot. That it cannot close the WebSocket when it ends changes nothing.

- `Relay.gone`: a relay whose transport is gone.
- `Cause.CutOff`: the causes that a relay without a transport may have, and others not.
- `Relay.Follows`: a relay without a transport does what another does, or was cut off.
- `Relay.session_gone`: so it does in every session.
-/

namespace Carrier

/-- The causes of relays that have no transport. -/
inductive Cause.CutOff : Cause → Prop where
  | unsent : CutOff (.remoteSendFailed Relay.sendFault)
  | unanswered : CutOff (.remoteReadFailed Relay.sendFault)
  | unread : CutOff (.remoteReadFailed (.protocol .resetWithoutClose))

/-- A relay that was cut off reports that its transport failed. -/
theorem Cause.CutOff.result {cause : Cause} (h : cause.CutOff) (toRemote toLocal : Nat) :
    ∃ direction fault, cause.result toRemote toLocal = .error (.relaySocket direction fault) ∧
      (fault = Relay.sendFault ∨ fault = .protocol .resetWithoutClose) := by
  cases h with
  | unsent => exact ⟨_, _, rfl, .inl rfl⟩
  | unanswered => exact ⟨_, _, rfl, .inl rfl⟩
  | unread => exact ⟨_, _, rfl, .inr rfl⟩

namespace Relay

/-- The relay when the other end has gone. -/
def gone (r : Relay) : Relay := { r with wire := { r.wire with dropped := true } }

/-- The relay `s` is as `r` would be with its transport gone, or was cut off. -/
def Follows (r s : Relay) : Prop := s = r.gone ∨ ∃ cause, s.cause = some cause ∧ cause.CutOff

variable {r s : Relay}

theorem Follows.of_finish {cause : Cause} (h : cause.CutOff) :
    Follows r (s.finish cause).1 :=
  .inr ⟨cause, rfl, h⟩

/-- A relay that follows another reports the same, or was cut off. -/
theorem Follows.result? (h : Follows r s) :
    s.result? = r.result? ∨ ∃ cause, s.cause = some cause ∧ cause.CutOff := by
  refine h.imp_left fun hs => ?_
  rw [hs]
  rfl

/-! ### One step -/

theorem Follows.andThen {x y : Relay × Traffic} {next : Relay → Relay × Traffic}
    (h : Follows x.1 y.1) (hnext : x.1.cause = none → Follows (next x.1).1 (next x.1.gone).1) :
    Follows (andThen x next).1 (andThen y next).1 := by
  rcases h with hgone | ⟨cause, hcause, hcut⟩
  · have hsame : y.1.cause = x.1.cause := by
      rw [hgone]
      rfl
    unfold Relay.andThen
    cases hx : x.1.cause with
    | some cause =>
      rw [hsame, hx]
      exact .inl hgone
    | none =>
      rw [hsame, hx, hgone]
      exact hnext hx
  · -- the relay that was cut off has ended
    have hstay : Relay.andThen y next = y := by
      simp [Relay.andThen, hcause]
    rw [hstay]
    exact .inr ⟨cause, hcause, hcut⟩

theorem outward_gone (r : Relay) : Follows r.outward.1 r.gone.outward.1 := by
  show Follows (r.emptied.send r.outgoing).1 (r.gone.emptied.send r.outgoing).1
  cases hout : r.outgoing with
  | nil =>
    refine .inl ?_
    simp only [send, gone, emptied]
    split <;> rfl
  | cons piece rest =>
    rw [send_dropped r.gone.emptied _ rfl (List.cons_ne_nil piece rest)]
    exact .of_finish .unsent

theorem react_gone (r : Relay) (message : Option Message) :
    Follows (r.react message).1 (r.gone.react message).1 := by
  match message with
  | none => exact .inl rfl
  | some (.pong payload) => exact .inl rfl
  | some (.ping payload) => exact .of_finish .unanswered
  | some (.close reply) => exact .inl rfl
  | some (.data kind payload) => exact .inl rfl

theorem handOver_gone (r : Relay) (payload : Bytes) :
    Option.Rel (fun x y : Relay × Traffic => Follows x.1 y.1) (r.handOver payload)
      (r.gone.handOver payload) := by
  have happ : r.gone.app = r.app := rfl
  unfold handOver
  rw [happ]
  cases deliver r.app payload with
  | blocked => exact .none
  | failed fault writes => exact .some (.inl rfl)
  | done writes => exact .some (.inl rfl)

/-- A relay without a transport takes in what another does, unless it finds the end. -/
theorem takeIn_gone (r : Relay) :
    Option.Rel (fun x y : Relay × Traffic => Follows x.1 y.1) r.takeIn r.gone.takeIn ∨
      r.gone.takeIn = some (r.gone.finish (.remoteReadFailed (.protocol .resetWithoutClose))) := by
  cases hheld : r.held with
  | some payload =>
    have hother : r.gone.held = some payload := hheld
    unfold takeIn
    rw [hheld, hother]
    exact .inl (r.handOver_gone payload)
  | none =>
    have hother : r.gone.held = none := hheld
    have hread : Intake.read r.gone.limits r.gone.pending r.gone.wire.unread
        = Intake.read r.limits r.pending r.wire.unread := rfl
    unfold takeIn
    rw [hheld, hother]
    unfold readNext
    rw [hread]
    cases Intake.read r.limits r.pending r.wire.unread with
    -- where the other relay would wait for more octets, there will be none
    | incomplete => exact .inr rfl
    | broken fault => exact .inl (.some (.inl rfl))
    | frame pending message rest => exact .inl (.some (react_gone (r.past pending rest) message))

theorem inward_gone (r : Relay) : Follows r.inward.1 r.gone.inward.1 := by
  -- on what is left to do; the relay without a transport may be cut off on the way
  induction hn : r.backlog using Nat.strongRecOn generalizing r with
  | _ n ih =>
    subst hn
    rcases r.takeIn_gone with htake | hcut
    · generalize hmove : r.takeIn = move, hother : r.gone.takeIn = other at htake
      cases htake with
      | none =>
        rw [inward_none hmove, inward_none hother]
        exact .inl rfl
      | some hfollows =>
        rw [inward_some hmove, inward_some hother]
        exact hfollows.andThen fun hrun => ih _ (takeIn_backlog hmove hrun) _ rfl
    · rw [inward_some hcut]
      exact .of_finish .unread

theorem expire_gone (r : Relay) : Follows r.expire.1 r.gone.expire.1 := by
  refine .inl ?_
  have hdeadline : r.gone.deadline = r.deadline := rfl
  have helapsed : r.gone.elapsed = r.elapsed := rfl
  unfold expire
  rw [hdeadline]
  cases r.deadline with
  | none => rfl
  | some limit =>
    simp only [helapsed]
    split <;> rfl

theorem settle_gone (r : Relay) : Follows r.settle.1 r.gone.settle.1 :=
  ((outward_gone r).andThen fun _ => inward_gone _).andThen fun _ => expire_gone _

/-! ### Whole scripts -/

theorem absorb_gone (r : Relay) {e : Event} (he : e.octets = []) :
    r.gone.absorb e = (r.absorb e).gone := by
  cases e with
  | remoteBytes data =>
    obtain rfl : data = [] := he
    by_cases hdrop : r.wire.dropped = true
    · simp [absorb, gone, hdrop]
    · simp [absorb, gone, hdrop]
  | _ => rfl

theorem step_gone (r : Relay) {e : Event} (he : e.octets = []) :
    Follows (r.step e).1 (r.gone.step e).1 := by
  by_cases hrun : r.cause = none
  · have hother : r.gone.cause = none := hrun
    by_cases hcancel : e = .cancel
    · subst hcancel
      rw [step_cancel hrun, step_cancel hother]
      exact .inl rfl
    · rw [step_settle hrun hcancel, step_settle hother hcancel, r.absorb_gone he]
      exact settle_gone _
  · have hother : r.gone.cause ≠ none := hrun
    rw [step_ended hrun, step_ended hother]
    exact .inl rfl

theorem Follows.step (h : Follows r s) {e : Event} (he : e.octets = []) :
    Follows (r.step e).1 (s.step e).1 := by
  rcases h with rfl | ⟨cause, hcause, hcut⟩
  · exact r.step_gone he
  · have hend : s.cause ≠ none := by
      rw [hcause]
      nofun
    rw [step_ended hend]
    exact .inr ⟨cause, hcause, hcut⟩

theorem Follows.run (h : Follows r s) {es : List Event} (hes : ∀ e ∈ es, e.octets = []) :
    Follows (r.run es).1 (s.run es).1 := by
  induction es generalizing r s with
  | nil => exact h
  | cons e es ih =>
    exact ih (h.step (hes e List.mem_cons_self)) fun f hf => hes f (List.mem_cons_of_mem e hf)

/-- A relay that waits follows itself when the other end goes. -/
theorem Settled.step_remoteDrop (hrun : r.cause = none) (h : Settled r) :
    Follows r (r.step .remoteDrop).1 := by
  have hgone := r.settle_gone
  rw [h.settle hrun] at hgone
  have hdrop : Event.remoteDrop ≠ .cancel := nofun
  rw [step_settle hrun hdrop]
  exact hgone

/-- When the other end goes and the script continues without octets from it, the relay reports
what it would have reported, unless it was cut off. -/
theorem session_gone (begun : Relay) (front : List Event) {more : List Event}
    (hmore : ∀ e ∈ more, e.octets = []) :
    (begun.session (front ++ .remoteDrop :: more)).1.result?
        = (begun.session (front ++ more)).1.result? ∨
      ∃ cause, (begun.session (front ++ .remoteDrop :: more)).1.cause = some cause ∧
        cause.CutOff := by
  have hwithout : (begun.session (front ++ more)).1 = ((begun.session front).1.run more).1 := by
    rw [session_append]
  have hgone : (begun.session (front ++ .remoteDrop :: more)).1
      = (((begun.session front).1.step .remoteDrop).1.run more).1 := by
    rw [session_append]
    rfl
  rw [hwithout, hgone]
  by_cases hrun : (begun.session front).1.cause = none
  · have hstep := (session_settled hrun).step_remoteDrop hrun
    exact (hstep.run hmore).result?
  · rw [step_ended hrun]
    exact .inl rfl

end Relay

end Carrier
