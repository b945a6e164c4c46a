import Carrier.Proofs.Dial.Setup
import Carrier.Proofs.Forwarder.Isolation
import Carrier.Proofs.Program.Carriage
import Carrier.Proofs.Program.Projection

/-!
# Where failures come from

A tunnel fails before its relay because of its options, because of its dial, or because it is called
off. A connection of a listener fails because of its dial alone.

- `Stdio.run_failure`, `Forwarder.run_failure`: the event that a failure comes with.
- `TunnelProcess.Grounded`: a process whose tunnel fails for a reason.
- `ListenerProcess.after_failed`: the dial of a connection that failed.
-/

namespace Carrier

/-! ### Failures of a tunnel -/

/-- What a relay reports is no mistake in the setup. -/
theorem Cause.result_notSetup {toRemote toLocal : Nat} {cause : Cause} {e : TunnelError}
    (h : cause.result toRemote toLocal = .error e) : e.isSetup = false := by
  cases cause <;> cases h <;> rfl

/-- The failure that an event brings to a tunnel that waits for its dial. -/
def StdioEvent.failure? : StdioEvent → Option TunnelError
  | .dialFailed cause => some (.dial cause)
  | .relay .cancel => some .cancelled
  | _ => none

namespace Stdio

/-- A tunnel that fails at once does so for its options. -/
theorem start_failed {o : DialOptions} {limits : Limits} {deadline : Option Duration}
    {cause : TunnelError} (h : (start o limits deadline .pending).1.phase = .failed cause) :
    ∃ found, o.validate = .error found ∧ cause = .setup found := by
  unfold start at h
  dsimp only at h
  split at h
  · rename_i found hinvalid
    cases h
    exact ⟨found, hinvalid, rfl⟩
  · cases h

theorem step_failure {s : Stdio} {e : StdioEvent} {cause : TunnelError}
    (h : (s.step e).1.phase = .failed cause) :
    s.phase = .failed cause ∨ e.failure? = some cause := by
  rw [(s.step_phase e).1] at h
  cases hphase : s.phase with
  | connecting =>
    rw [hphase] at h
    cases e with
    | established => cases h
    | dialFailed reason =>
      cases h
      exact .inr rfl
    | relay event =>
      cases event with
      | cancel =>
        cases h
        exact .inr rfl
      | _ => cases h
  | relaying =>
    rw [hphase] at h
    cases e <;> cases h
  | failed before =>
    rw [hphase] at h
    have hsame : phaseOn (.failed before) e = .failed before := by cases e <;> rfl
    exact .inl (hsame.symm.trans h)

/-- A tunnel that fails does so for one of the events. -/
theorem run_failure {s : Stdio} {es : List StdioEvent} {cause : TunnelError}
    (h : (s.run es).1.phase = .failed cause) :
    s.phase = .failed cause ∨ ∃ e ∈ es, e.failure? = some cause := by
  induction es generalizing s with
  | nil => exact .inl h
  | cons e es ih =>
    rcases ih h with hnext | ⟨f, hf, hcause⟩
    · rcases step_failure hnext with hbefore | hcause
      · exact .inl hbefore
      · exact .inr ⟨e, List.mem_cons_self, hcause⟩
    · exact .inr ⟨f, List.mem_cons_of_mem e hf, hcause⟩

end Stdio

namespace TunnelProcess

/-- Why a tunnel with some options can fail before it relays. -/
inductive Fails (dialer : Dialer) (o : DialOptions) : TunnelError → Prop where
  /-- The options cannot be dialed. -/
  | setup {cause : SetupError} (invalid : o.validate = .error cause) : Fails dialer o (.setup cause)
  /-- A dial of the options failed. -/
  | dial {key : HeaderValue} {origin : Origin} {cause : DialError}
    (failed : dialer.dial o key origin = .error cause) : Fails dialer o (.dial cause)
  /-- It was called off. -/
  | cancelled : Fails dialer o .cancelled

/-- A process with a dialer and options, whose tunnel can only have failed for a reason. -/
structure Grounded (d : Dialer) (o : DialOptions) (p : TunnelProcess) : Prop where
  follows : p.Follows
  dialer : p.dialer = d
  options : p.tunnel.options = o
  failed : ∀ cause, p.tunnel.phase = .failed cause → Fails d o cause

variable {d : Dialer} {o : DialOptions} {p : TunnelProcess}

theorem start_grounded (d : Dialer) (o : DialOptions) (deadline : Option Duration) :
    (start d o deadline).1.Grounded d o := by
  refine ⟨start_follows d o deadline, rfl, ?_, ?_⟩
  · show (Stdio.start o d.limits deadline .pending).1.options = o
    unfold Stdio.start
    dsimp only
    split <;> rfl
  · intro cause h
    obtain ⟨found, hinvalid, rfl⟩ := Stdio.start_failed h
    exact .setup hinvalid

/-- An event that makes a tunnel fail is the end of a dial that failed, or an interrupt. -/
theorem seen_failure {e : TunnelEvent} {seen : StdioEvent} (hseen : seen ∈ p.seen e)
    {cause : TunnelError} (hcause : seen.failure? = some cause) :
    (∃ key origin reason, e = .dial key origin ∧ cause = .dial reason ∧
      p.dialer.dial p.tunnel.options key origin = .error reason) ∨
    e = .interrupt ∧ cause = .cancelled := by
  cases e with
  | dial key origin =>
    unfold TunnelProcess.seen at hseen
    dsimp only at hseen
    split at hseen
    · split at hseen
      · rename_i reason hdial
        rw [List.mem_singleton.mp hseen] at hcause
        cases hcause
        exact .inl ⟨key, origin, reason, rfl, rfl, hdial⟩
      · simp only [List.mem_cons, List.not_mem_nil, or_false] at hseen
        rcases hseen with rfl | rfl <;> cases hcause
    · cases hseen
  | relay event =>
    cases event with
    | cancel => cases hseen
    | _ =>
      rw [List.mem_singleton.mp hseen] at hcause
      cases hcause
  | interrupt =>
    rw [List.mem_singleton.mp hseen] at hcause
    cases hcause
    exact .inr ⟨rfl, rfl⟩

theorem Grounded.step (h : p.Grounded d o) (e : TunnelEvent) : (p.step e).1.Grounded d o := by
  obtain ⟨hdialer, hoptions⟩ := step_settings h.follows e
  refine ⟨step_follows h.follows e, hdialer.trans h.dialer, hoptions.trans h.options, ?_⟩
  intro cause hfailed
  by_cases hphase : p.phase = .running
  · rw [step_running hphase h.follows] at hfailed
    rcases Stdio.run_failure hfailed with hbefore | ⟨seen, hseen, hcause⟩
    · exact h.failed cause hbefore
    · rcases seen_failure hseen hcause with ⟨key, origin, reason, -, rfl, hdial⟩ | ⟨-, rfl⟩
      · rw [h.dialer, h.options] at hdial
        exact .dial hdial
      · exact .cancelled
  · rw [(step_over hphase e).1] at hfailed
    exact h.failed cause hfailed

theorem Grounded.after (h : p.Grounded d o) (script : List TunnelEvent) :
    (p.after script).Grounded d o := by
  induction script generalizing p with
  | nil => exact h
  | cons e es ih => exact ih (h.step e)

/-- With options that can be dialed a tunnel never reports a mistake in them. -/
theorem Grounded.result_notSetup (h : p.Grounded d o) (hvalid : o.validate = .ok ())
    {cause : TunnelError} (hresult : p.tunnel.result? = some (.error cause)) :
    cause.isSetup = false := by
  unfold Stdio.result? at hresult
  cases hphase : p.tunnel.phase with
  | connecting =>
    rw [hphase] at hresult
    cases hresult
  | relaying =>
    rw [hphase] at hresult
    obtain ⟨end_, -, hend⟩ := Option.map_eq_some_iff.mp hresult
    exact Cause.result_notSetup hend
  | failed reason =>
    rw [hphase] at hresult
    cases hresult
    cases h.failed cause hphase with
    | setup invalid => cases hvalid.symm.trans invalid
    | dial failed => exact d.dial_valid hvalid _ _ _ failed
    | cancelled => rfl

end TunnelProcess

/-! ### Failures of connections -/

/-- The failure of a dial that an event of a listener brings. -/
def ForwarderEvent.failure? : ForwarderEvent → Option DialError
  | .accept (.failed cause) => some cause
  | .connection _ (.dialFailed cause) => some cause
  | _ => none

theorem Connection.step_failure {c : Connection} {e : ConnectionEvent} {cause : DialError}
    (h : (c.step e).1 = .failed cause) : c = .failed cause ∨ e = .dialFailed cause := by
  cases c with
  | connecting waiting =>
    cases e with
    | dialFailed reason =>
      cases h
      exact .inr rfl
    | _ => cases h
  | failed reason =>
    refine .inl ?_
    rw [← h]
    cases e <;> rfl
  | abandoned => cases e <;> cases h
  | relayed r =>
    rw [(step_relayed r e).1] at h
    cases h

namespace Forwarder

/-- A connection that fails does so because of its dial. -/
theorem step_failure {f : Forwarder} {e : ForwarderEvent} {c : Nat} {cause : DialError}
    (h : (f.step e).1.connections[c]? = some (.failed cause)) :
    f.connections[c]? = some (.failed cause) ∨ e.failure? = some cause := by
  have hall (e : ConnectionEvent) (he : e ≠ .dialFailed cause)
      (h : (stepAll e 0 f.connections).1[c]? = some (.failed cause)) :
      f.connections[c]? = some (.failed cause) := by
    rw [stepAll_connections, List.getElem?_map] at h
    obtain ⟨before, hbefore, hstep⟩ := Option.map_eq_some_iff.mp h
    rw [hbefore, (Connection.step_failure hstep).resolve_right he]
  cases e with
  | accept dial =>
    cases hopen : f.accepting with
    | false =>
      rw [step_accept_closed hopen] at h
      exact .inl h
    | true =>
      rw [step_accept hopen] at h
      change (f.connections ++ [_])[c]? = _ at h
      rw [List.getElem?_append] at h
      split at h
      · exact .inl h
      · rw [List.getElem?_singleton] at h
        split at h
        · cases dial with
          | failed reason =>
            cases h
            exact .inr rfl
          | pending => cases h
          | established => cases h
        · cases h
  | acceptFault fault => exact .inl h
  | connection i event =>
    change (f.stepOne i event).1.connections[c]? = _ at h
    rcases stepOne_cases f i event with ⟨-, hstep⟩ | ⟨before, -, hget, hstep⟩
    · rw [hstep] at h
      exact .inl h
    · rw [hstep] at h
      change (f.connections.set i (before.step event).1)[c]? = _ at h
      by_cases hi : i = c
      · subst hi
        rw [List.getElem?_set_self (List.getElem?_eq_some_iff.mp hget).1] at h
        rcases Connection.step_failure (Option.some.inj h) with hbefore | rfl
        · rw [hget, hbefore]
          exact .inl rfl
        · exact .inr rfl
      · rw [List.getElem?_set_ne hi] at h
        exact .inl h
  | advance span => exact .inl (hall (.advance span) nofun h)
  | shutdown =>
    cases hopen : f.accepting with
    | false =>
      rw [step_shutdown_closed hopen] at h
      exact .inl h
    | true =>
      rw [step_shutdown hopen] at h
      exact .inl (hall .shutdown nofun h)

theorem run_failure {f : Forwarder} {es : List ForwarderEvent} {c : Nat} {cause : DialError}
    (h : (f.run es).1.connections[c]? = some (.failed cause)) :
    f.connections[c]? = some (.failed cause) ∨ ∃ e ∈ es, e.failure? = some cause := by
  induction es generalizing f with
  | nil => exact .inl h
  | cons e es ih =>
    rcases ih h with hnext | ⟨g, hg, hcause⟩
    · rcases step_failure hnext with hbefore | hcause
      · exact .inl hbefore
      · exact .inr ⟨e, List.mem_cons_self, hcause⟩
    · exact .inr ⟨g, List.mem_cons_of_mem e hg, hcause⟩

theorem step_options (f : Forwarder) (e : ForwarderEvent) : (f.step e).1.options = f.options := by
  cases e with
  | accept dial =>
    unfold step
    dsimp only
    split <;> rfl
  | connection i e =>
    show (f.stepOne i e).1.options = _
    unfold stepOne
    split <;> rfl
  | shutdown =>
    unfold step
    dsimp only
    split <;> rfl
  | _ => rfl

theorem run_options (f : Forwarder) (es : List ForwarderEvent) :
    (f.run es).1.options = f.options := by
  induction es generalizing f with
  | nil => rfl
  | cons e es ih => exact (ih (f.step e).1).trans (f.step_options e)

end Forwarder

namespace ListenerProcess

variable {p : ListenerProcess} {l : Nat} {f : Forwarder}

/-- A failure that a listener sees is that of a dial with its options. -/
theorem seenBy_failure {dialer : Dialer} {e : ListenerEvent} {seen : ForwarderEvent}
    (hseen : seen ∈ e.seenBy dialer l f) {cause : DialError} (hcause : seen.failure? = some cause) :
    ∃ key origin, dialer.dial f.options key origin = .error cause := by
  cases ListenerEvent.sees_of_mem hseen with
  | dialFailed waits dial =>
    cases hcause
    exact ⟨_, _, dial⟩
  | _ => cases hcause

/-- The listener with an index keeps its options, and each of its connections that has failed since
was dialed with them in vain. -/
theorem after_failed (hget : p.forwarders[l]? = some f) (script : List ListenerEvent) :
    ∃ g, (p.after script).forwarders[l]? = some g ∧ g.options = f.options ∧
      ∀ (c : Nat) (cause : DialError), g.connections[c]? = some (.failed cause) →
        f.connections[c]? = some (.failed cause) ∨
          ∃ key origin, p.dialer.dial f.options key origin = .error cause := by
  induction script generalizing p f with
  | nil => exact ⟨f, hget, rfl, fun c cause h => .inl h⟩
  | cons e es ih =>
    obtain ⟨seen, hstep, hwhich⟩ := p.step_forwarders e hget
    obtain ⟨g, hg, hoptions, hfailed⟩ := ih hstep
    rw [f.run_options] at hoptions hfailed
    refine ⟨g, hg, hoptions, ?_⟩
    intro c cause hc
    rcases hfailed c cause hc with hnext | hdial
    · rcases Forwarder.run_failure hnext with hbefore | ⟨event, hevent, hcause⟩
      · exact .inl hbefore
      · -- an event that the listener does not see makes nothing fail
        rcases hwhich with rfl | rfl
        · cases hevent
        · exact .inr (seenBy_failure hevent hcause)
    · rw [p.step_dialer] at hdial
      exact .inr hdial

end ListenerProcess

end Carrier
