import Carrier.Proofs.Forwarder.Isolation

/-!
# Shutting a forwarder down

A forwarder accepts connections until it is shut down. Then the connections without a WebSocket
are given up, and the others go on as if nothing had happened.

- `ForwarderEvent.noticedAt`: what a script is for the relay of one connection.
- `Forwarder.handlers`: how many connections are still looked after.
- `Forwarder.run_accepted`: where each connection comes from.
- `Forwarder.run_shutdown`: what a forwarder does before and after it is shut down.
-/

namespace Carrier

/-- What the relay of the connection with an index notices of a script: what happens on its own
sides, and the clock. -/
def ForwarderEvent.noticedAt (index : Nat) (script : List ForwarderEvent) : List Event :=
  (script.filterMap (·.at? index)).filterMap (·.noticed?)

/-- Whether a connection is still looked after: it waits for its WebSocket, or is relayed. -/
def Connection.isHandled : Connection → Bool
  | .connecting _ => true
  | .relayed r => r.cause.isNone
  | _ => false

/-- How many connections are still looked after. -/
def Forwarder.handlers (f : Forwarder) : Nat := f.connections.countP Connection.isHandled

/-- Whether the connection with an index is relayed, and goes on to be during a script. -/
def Forwarder.drains (f : Forwarder) (script : List ForwarderEvent) (index : Nat) : Bool :=
  match f.connections[index]? with
  | some (.relayed r) => (r.run (ForwarderEvent.noticedAt index script)).1.cause.isNone
  | _ => false

/-! ### Relays that nobody calls off -/

namespace Relay

theorem Ends.not_cancelled {r s : Relay} {cause : Cause} {writes : List Bytes}
    (h : r.Ends cause writes s) : cause ≠ .cancelled := by
  cases h <;> nofun

theorem Moves.not_cancelled {r s : Relay} {t : Traffic} (h : Moves r t s)
    (hr : r.cause ≠ some .cancelled) : s.cause ≠ some .cancelled := by
  induction h with
  | refl r => exact hr
  | next hrun hmove hrest ih =>
    refine ih ?_
    cases hmove with
    | @ended cause writes q hend =>
      rw [finish_cause, ne_eq, Option.some.injEq]
      exact hend.not_cancelled
    | _ => exact hr

/-- Only being called off ends a relay as called off. -/
theorem step_not_cancelled {r : Relay} {e : Event} (hr : r.cause ≠ some .cancelled)
    (he : e ≠ .cancel) : (r.step e).1.cause ≠ some .cancelled := by
  by_cases hrun : r.cause = none
  · rw [step_settle hrun he]
    have hcause : (r.absorb e).cause = none := by rw [absorb_cause, hrun]
    refine (settle_moves hcause).not_cancelled ?_
    rw [hcause]
    nofun
  · rw [step_ended hrun]
    exact hr

theorem run_not_cancelled {r : Relay} {es : List Event} (hr : r.cause ≠ some .cancelled)
    (hes : .cancel ∉ es) : (r.run es).1.cause ≠ some .cancelled := by
  induction es generalizing r with
  | nil => exact hr
  | cons e es ih =>
    rw [List.mem_cons, not_or] at hes
    exact ih (step_not_cancelled hr (Ne.symm hes.1)) hes.2

end Relay

/-- A relay notices no cancelling. -/
theorem ConnectionEvent.noticed?_ne_cancel (e : ConnectionEvent) : e.noticed? ≠ some .cancel := by
  cases e with
  | relay event =>
    cases event with
    | cancel => nofun
    | advance span => nofun
    | _ => exact fun h => Event.noConfusion (Option.some.inj h)
  | _ => nofun

theorem ForwarderEvent.cancel_not_noticed (index : Nat) (script : List ForwarderEvent) :
    .cancel ∉ noticedAt index script := by
  intro hmem
  obtain ⟨e, -, he⟩ := List.mem_filterMap.mp hmem
  exact e.noticed?_ne_cancel he

/-! ### One connection -/

namespace Connection

/-- A connection that waits for its WebSocket has not begun its relay, and no relay was called
off. -/
def Uncancelled : Connection → Prop
  | .connecting waiting => waiting.cause = none
  | .relayed r => r.cause ≠ some .cancelled
  | _ => True

theorem step_uncancelled {c : Connection} (h : c.Uncancelled) (e : ConnectionEvent) :
    (c.step e).1.Uncancelled := by
  cases c with
  | connecting waiting =>
    cases e with
    | established =>
      refine (Relay.settle_moves h).not_cancelled ?_
      rw [show waiting.cause = none from h]
      nofun
    | relay event =>
      show (if isOwn event then waiting.absorb event else waiting).cause = none
      split
      · rw [Relay.absorb_cause]
        exact h
      · exact h
    | advance span => exact h
    | _ => trivial
  | relayed r =>
    rw [(step_relayed r e).1]
    refine Relay.run_not_cancelled h fun hmem => ?_
    exact e.noticed?_ne_cancel (Option.mem_toList.mp hmem)
  | failed cause => cases e <;> trivial
  | abandoned => cases e <;> trivial

theorem run_uncancelled {c : Connection} (h : c.Uncancelled) (es : List ConnectionEvent) :
    (c.run es).1.Uncancelled := by
  induction es generalizing c with
  | nil => exact h
  | cons e es ih => exact ih (step_uncancelled h e)

theorem accept_uncancelled (limits : Limits) (deadline : Option Duration) (dial : DialOutcome) :
    (accept limits deadline dial).1.Uncancelled := by
  have hbegun : (Connection.connecting { limits := limits, deadline := deadline }).Uncancelled :=
    rfl
  cases dial with
  | pending => exact hbegun
  | established => exact step_uncancelled hbegun .established
  | failed cause => trivial

/-- A connection that waits for its WebSocket has always done so, and has sent nothing. -/
theorem run_connecting {c : Connection} {es : List ConnectionEvent} {waiting : Relay}
    (h : (c.run es).1 = .connecting waiting) :
    (∃ before, c = .connecting before) ∧ (c.run es).2 = Traffic.none := by
  induction es generalizing c with
  | nil => exact ⟨⟨waiting, h⟩, rfl⟩
  | cons e es ih =>
    rw [run_cons] at h ⊢
    obtain ⟨⟨next, hnext⟩, hrest⟩ := ih h
    cases c with
    | connecting before =>
      refine ⟨⟨before, rfl⟩, ?_⟩
      rw [hrest]
      cases e with
      | established => cases hnext
      | _ => rfl
    | _ => exact absurd hnext (step_decided (fun _ h => Connection.noConfusion h) e next)

theorem accept_connecting {limits : Limits} {deadline : Option Duration} {dial : DialOutcome}
    {waiting : Relay} (h : (accept limits deadline dial).1 = .connecting waiting) :
    (accept limits deadline dial).2.1 = Traffic.none := by
  cases dial with
  | pending => rfl
  | _ => cases h

end Connection

namespace Forwarder

/-! ### Accepting -/

theorem step_accepting (f : Forwarder) (e : ForwarderEvent) :
    (f.step e).1.accepting = true ↔ f.accepting = true ∧ e ≠ .shutdown := by
  cases hopen : f.accepting with
  | false =>
    cases e with
    | accept dial => simp [step_accept_closed hopen, hopen]
    | shutdown => simp [step_shutdown_closed hopen, hopen]
    | connection i e =>
      show (f.stepOne i e).1.accepting = true ↔ _
      rcases stepOne_cases f i e with ⟨-, hstep⟩ | ⟨d, -, -, hstep⟩ <;> simp [hstep, hopen]
    | _ => simp [step, hopen]
  | true =>
    cases e with
    | accept dial => simp [step_accept hopen, hopen]
    | shutdown => simp [step_shutdown hopen]
    | connection i e =>
      show (f.stepOne i e).1.accepting = true ↔ _
      rcases stepOne_cases f i e with ⟨-, hstep⟩ | ⟨d, -, -, hstep⟩ <;> simp [hstep, hopen]
    | _ => simp [step, hopen]

/-- Only being shut down makes a forwarder stop accepting. -/
theorem run_accepting (f : Forwarder) (script : List ForwarderEvent) :
    (f.run script).1.accepting = true ↔ f.accepting = true ∧ .shutdown ∉ script := by
  induction script generalizing f with
  | nil => simp [run]
  | cons e es ih =>
    rw [run_cons, ih, step_accepting, List.mem_cons, not_or, and_assoc, ne_comm]

/-- Only a client that is accepted adds a connection. -/
theorem step_length {f : Forwarder} {e : ForwarderEvent}
    (h : f.accepting = false ∨ ∀ dial, e ≠ .accept dial) :
    (f.step e).1.connections.length = f.connections.length := by
  cases e with
  | accept dial => rw [step_accept_closed (h.resolve_right fun h => h dial rfl)]
  | acceptFault fault => rfl
  | connection i e =>
    show (f.stepOne i e).1.connections.length = _
    rcases stepOne_cases f i e with ⟨-, hstep⟩ | ⟨d, -, -, hstep⟩ <;> simp [hstep]
  | advance span =>
    show (stepAll _ 0 f.connections).1.length = _
    rw [stepAll_connections, List.length_map]
  | shutdown =>
    cases hopen : f.accepting with
    | false => rw [step_shutdown_closed hopen]
    | true =>
      rw [step_shutdown hopen]
      show (stepAll _ 0 f.connections).1.length = _
      rw [stepAll_connections, List.length_map]

/-- A connection that was not there has just been accepted. -/
theorem step_new {f : Forwarder} {e : ForwarderEvent} {index : Nat}
    (h : index < (f.step e).1.connections.length) (hnew : f.connections.length ≤ index) :
    f.accepting = true ∧ index = f.connections.length ∧ ∃ dial, e = .accept dial := by
  by_cases hsame : f.accepting = false ∨ ∀ dial, e ≠ .accept dial
  · rw [step_length hsame] at h
    omega
  · rw [not_or, Bool.not_eq_false, not_forall_not] at hsame
    obtain ⟨hopen, dial, rfl⟩ := hsame
    rw [step_accept hopen, List.length_append, List.length_singleton] at h
    exact ⟨hopen, by omega, dial, rfl⟩

/-- A forwarder that does not accept gets no connections. -/
theorem run_length {f : Forwarder} (h : f.accepting = false) (script : List ForwarderEvent) :
    (f.run script).1.connections.length = f.connections.length := by
  induction script generalizing f with
  | nil => rfl
  | cons e es ih =>
    have hclosed : (f.step e).1.accepting = false := by
      rw [← Bool.not_eq_true, step_accepting, h]
      nofun
    rw [run_cons, ih hclosed, step_length (.inl h)]

/-- Each connection is one that was accepted. -/
theorem run_origin {f : Forwarder} (hnone : f.connections = []) {script : List ForwarderEvent}
    {index : Nat} (h : index < (f.run script).1.connections.length) :
    ∃ before dial after, script = before ++ .accept dial :: after ∧
      (f.run before).1.accepting = true ∧ (f.run before).1.connections.length = index := by
  induction script using List.reverseRecOn with
  | nil =>
    rw [show (f.run []).1.connections = [] from hnone] at h
    cases h
  | append_singleton es e ih =>
    by_cases hbound : index < (f.run es).1.connections.length
    · obtain ⟨before, dial, after, rfl, hopen, hindex⟩ := ih hbound
      exact ⟨before, dial, after ++ [e], by simp, hopen, hindex⟩
    · rw [run_append] at h
      obtain ⟨hopen, hindex, dial, rfl⟩ := step_new h (Nat.not_lt.mp hbound)
      exact ⟨es, dial, [], rfl, hopen, hindex.symm⟩

/-- Each connection is one that was accepted, to which has happened what concerned it since. -/
theorem run_accepted {f : Forwarder} (hnone : f.connections = []) {script : List ForwarderEvent}
    {index : Nat} {c : Connection} (h : (f.run script).1.connections[index]? = some c) :
    ∃ before dial after, script = before ++ .accept dial :: after ∧
      (f.run before).1.accepting = true ∧ (f.run before).1.connections.length = index ∧
      c = ((Connection.accept f.limits f.deadline dial).1.run (after.filterMap (·.at? index))).1 ∧
      (f.run script).2.sentBy index
        = (Connection.accept f.limits f.deadline dial).2.1.followedBy
            ((Connection.accept f.limits f.deadline dial).1.run
              (after.filterMap (·.at? index))).2 := by
  obtain ⟨before, dial, after, rfl, hopen, rfl⟩ :=
    run_origin hnone (List.getElem?_eq_some_iff.mp h).1
  refine ⟨before, dial, after, rfl, hopen, rfl, ?_⟩
  obtain ⟨hlimits, hdeadline⟩ := run_settings f before
  obtain ⟨haccepted, hfirst⟩ := accept_holds hopen dial
  obtain ⟨hlast, hafter⟩ := run_projection haccepted after
  have hbefore := (run_beyond (f := f) (Nat.le_refl (f.run before).1.connections.length)).2
  rw [hlimits, hdeadline] at hlast hafter hfirst
  rw [run_append, run_cons] at h ⊢
  refine ⟨Option.some.inj (h.symm.trans hlast.get), ?_⟩
  rw [ForwarderOutput.sentBy_followedBy, ForwarderOutput.sentBy_followedBy, hbefore, hfirst, hafter]
  rfl

/-! ### After the shutdown -/

/-- A forwarder that is being shut down: what becomes of its connections. -/
theorem run_stopped {f : Forwarder} (hopen : f.accepting = true) {index : Nat} {c : Connection}
    (h : f.connections[index]? = some c) (after : List ForwarderEvent) :
    let seen := ConnectionEvent.shutdown :: after.filterMap (·.at? index)
    (f.run (.shutdown :: after)).1.Holds index (c.run seen).1 ∧
      (f.run (.shutdown :: after)).2.sentBy index = (c.run seen).2 := by
  have hholds : f.Holds index c :=
    ⟨h, fun hclosed => by rw [hopen] at hclosed; cases hclosed⟩
  exact run_projection hholds (.shutdown :: after)

theorem length_stopped {f : Forwarder} (hopen : f.accepting = true)
    (after : List ForwarderEvent) :
    (f.run (.shutdown :: after)).1.connections.length = f.connections.length := by
  have hclosed : (f.step .shutdown).1.accepting = false := by
    rw [step_shutdown hopen]
  have hsame : (f.step .shutdown).1.connections.length = f.connections.length :=
    step_length (.inr fun dial => ForwarderEvent.noConfusion)
  rw [run_cons, run_length hclosed, hsame]

theorem run_stopped_connecting (waiting : Relay) (seen : List ConnectionEvent) :
    (Connection.connecting waiting).run (.shutdown :: seen) = (.abandoned, Traffic.none) := by
  show (((Connection.abandoned).run seen).1,
    Traffic.none.followedBy (Connection.abandoned.run seen).2) = _
  rw [Connection.run_abandoned]
  rfl

theorem run_stopped_relayed (r : Relay) (index : Nat) (after : List ForwarderEvent) :
    (Connection.relayed r).run (.shutdown :: after.filterMap (·.at? index)) =
      (.relayed (r.run (ForwarderEvent.noticedAt index after)).1,
        (r.run (ForwarderEvent.noticedAt index after)).2) :=
  Connection.run_relayed r _

/-- The connections that are open after the shutdown are those that drain. -/
theorem isOpen_stopped {f : Forwarder} (hopen : f.accepting = true) (after : List ForwarderEvent)
    {index : Nat} (hbound : index < f.connections.length) :
    (f.run (.shutdown :: after)).1.connections[index]?.any Connection.isOpen
      = f.drains after index := by
  have hget := List.getElem?_eq_getElem hbound
  have hlast := (run_stopped hopen hget after).1.get
  unfold drains
  rw [hlast, hget]
  cases f.connections[index] with
  | connecting waiting =>
    rw [run_stopped_connecting]
    rfl
  | relayed r =>
    rw [run_stopped_relayed]
    rfl
  | failed cause =>
    rw [Connection.run_failed]
    rfl
  | abandoned =>
    rw [Connection.run_abandoned]
    rfl

theorem countP_eq_range {α : Type} (l : List α) (p : α → Bool) :
    l.countP p = (List.range l.length).countP fun i => l[i]?.any p := by
  induction l using List.reverseRecOn with
  | nil => rfl
  | append_singleton l a ih =>
    have hfront : (List.range l.length).countP (fun i => (l ++ [a])[i]?.any p)
        = (List.range l.length).countP fun i => l[i]?.any p := by
      refine List.countP_congr fun i hi => ?_
      rw [List.getElem?_append_left (List.mem_range.mp hi)]
    rw [List.countP_append, List.length_append, List.length_singleton, List.range_succ,
      List.countP_append, hfront, ← ih]
    simp [List.countP_cons]

/-- After the shutdown the connections that are looked after are the open ones. -/
theorem handlers_stopped {f : Forwarder} (hopen : f.accepting = true)
    (after : List ForwarderEvent) :
    (f.run (.shutdown :: after)).1.handlers = (f.run (.shutdown :: after)).1.inFlight := by
  refine List.countP_congr fun c hc => ?_
  obtain ⟨index, hbound, rfl⟩ := List.mem_iff_getElem.mp hc
  have hlength := length_stopped hopen after
  have hstopped : (f.run (.shutdown :: after)).1.accepting = false := by
    rw [← Bool.not_eq_true, run_accepting]
    exact fun h => h.2 List.mem_cons_self
  have hget := List.getElem?_eq_getElem (hlength ▸ hbound)
  obtain ⟨hholds, -⟩ := run_stopped hopen hget after
  have hsame := Option.some.inj ((List.getElem?_eq_getElem hbound).symm.trans hholds.get)
  rw [hsame]
  -- no connection waits any more, and the two counts differ only there
  cases hlast : (f.connections[index].run (.shutdown :: after.filterMap (·.at? index))).1 with
  | connecting waiting => exact absurd hlast (hholds.decided hstopped waiting)
  | _ => rfl

theorem inFlight_stopped {f : Forwarder} (hopen : f.accepting = true)
    (after : List ForwarderEvent) :
    (f.run (.shutdown :: after)).1.inFlight
      = (List.range f.connections.length).countP (f.drains after) := by
  have hlength := length_stopped hopen after
  rw [inFlight, countP_eq_range, hlength]
  refine List.countP_congr fun index hindex => ?_
  rw [isOpen_stopped hopen after (List.mem_range.mp hindex)]

theorem drains_iff {f : Forwarder} {script : List ForwarderEvent} {index : Nat} :
    f.drains script index = true ↔ ∃ r, f.connections[index]? = some (.relayed r) ∧
      (r.run (ForwarderEvent.noticedAt index script)).1.cause = none := by
  unfold drains
  cases f.connections[index]? with
  | none => simp
  | some c => cases c <;> simp

/-- No connection drains any more exactly when every relay has ended. -/
theorem drained_iff (f : Forwarder) (script : List ForwarderEvent) :
    (List.range f.connections.length).countP (f.drains script) = 0 ↔
      ∀ (index : Nat) (r : Relay), f.connections[index]? = some (.relayed r) →
        (r.run (ForwarderEvent.noticedAt index script)).1.cause ≠ none := by
  rw [List.countP_eq_zero]
  constructor
  · intro h index r hget hrun
    have hbound := (List.getElem?_eq_some_iff.mp hget).1
    exact h index (List.mem_range.mpr hbound) (drains_iff.mpr ⟨r, hget, hrun⟩)
  · intro h index _ hdrains
    obtain ⟨r, hget, hrun⟩ := drains_iff.mp hdrains
    exact h index r hget hrun

/-- A forwarder accepts every client until it is shut down, whatever fails in between, and none
afterwards. When it is shut down, a connection that waits for its WebSocket is given up, and has
neither sent nor been given anything, then or later. One that is relayed goes on with what happens
on its own sides and with the clock, and is never called off. The connections that are still
looked after are those whose relays have not ended, so that there are none exactly when the last
of these has. -/
theorem run_shutdown (options : DialOptions) (address : SocketAddress) (limits : Limits)
    (deadline : Option Duration) (script : List ForwarderEvent) :
    let f : Forwarder :=
      { options := options, address := address, limits := limits, deadline := deadline }
    ((f.run script).1.accepting = true ↔ .shutdown ∉ script) ∧
    (∀ dial, (f.run (script ++ [.accept dial])).1.connections.length =
      (f.run script).1.connections.length + if .shutdown ∈ script then 0 else 1) ∧
    ∀ before after, script = before ++ .shutdown :: after → .shutdown ∉ before →
      let stopped := (f.run before).1
      let last := f.run script
      last.1.connections.length = stopped.connections.length ∧
      (∀ index waiting, stopped.connections[index]? = some (.connecting waiting) →
        last.1.connections[index]? = some .abandoned ∧
        last.2.sentBy index = Traffic.none) ∧
      (∀ index r, stopped.connections[index]? = some (.relayed r) →
        let alone := r.run (ForwarderEvent.noticedAt index after)
        last.1.connections[index]? = some (.relayed alone.1) ∧
        last.2.sentBy index = ((f.run before).2.sentBy index).followedBy alone.2 ∧
        alone.1.cause ≠ some .cancelled) ∧
      last.1.handlers = last.1.inFlight ∧
      last.1.inFlight =
        (List.range stopped.connections.length).countP (stopped.drains after) ∧
      (last.1.handlers = 0 ↔ ∀ (index : Nat) (r : Relay),
        stopped.connections[index]? = some (.relayed r) →
          (r.run (ForwarderEvent.noticedAt index after)).1.cause ≠ none) := by
  intro f
  refine ⟨?_, fun dial => ?_, ?_⟩
  · rw [run_accepting]
    exact and_iff_right rfl
  · rw [run_append, run_cons]
    show ((f.run script).1.step (.accept dial)).1.connections.length = _
    cases hopen : (f.run script).1.accepting with
    | true =>
      rw [step_accept hopen, if_neg ((run_accepting f script).mp hopen).2]
      exact List.length_append
    | false =>
      rw [← Bool.not_eq_true, run_accepting, not_and, not_not] at hopen
      rw [if_pos (hopen rfl), step_length (.inl ?_)]
      · rfl
      · rw [← Bool.not_eq_true, run_accepting]
        exact fun h => h.2 (hopen rfl)
  · rintro before after rfl hbefore stopped last
    have hopen : stopped.accepting = true := (run_accepting f before).mpr ⟨rfl, hbefore⟩
    have hlast : last = ((stopped.run (.shutdown :: after)).1,
        (f.run before).2.followedBy (stopped.run (.shutdown :: after)).2) := run_append _ _ _
    rw [hlast]
    refine ⟨length_stopped hopen after, fun index waiting hget => ?_, fun index r hget => ?_,
      handlers_stopped hopen after, inFlight_stopped hopen after, ?_⟩
    · obtain ⟨hholds, hsent⟩ := run_stopped hopen hget after
      rw [run_stopped_connecting] at hholds hsent
      obtain ⟨_, dial, _, -, -, -, hc, hbegan⟩ := run_accepted rfl hget
      obtain ⟨⟨begun, haccept⟩, hquiet⟩ := Connection.run_connecting hc.symm
      refine ⟨hholds.get, ?_⟩
      rw [ForwarderOutput.sentBy_followedBy, hsent, hbegan, hquiet,
        Connection.accept_connecting haccept]
      rfl
    · obtain ⟨hholds, hsent⟩ := run_stopped hopen hget after
      rw [run_stopped_relayed] at hholds hsent
      obtain ⟨_, dial, seen, -, -, -, hc, -⟩ := run_accepted rfl hget
      refine ⟨hholds.get, ?_, ?_⟩
      · rw [ForwarderOutput.sentBy_followedBy, hsent]
      · have hproper : (Connection.relayed r).Uncancelled := by
          rw [hc]
          exact Connection.run_uncancelled (Connection.accept_uncancelled _ _ _) _
        exact Relay.run_not_cancelled hproper (ForwarderEvent.cancel_not_noticed index after)
    · rw [handlers_stopped hopen after, inFlight_stopped hopen after]
      exact drained_iff stopped after

end Forwarder

end Carrier
