import Carrier.Proofs.Forwarder.Shutdown
import Carrier.Proofs.Program.Failures

/-!
# A process of listeners that serves

Until it is interrupted, each listener of a process accepts. The name of a host is looked up for a
connection from the moment it is accepted, and a lookup that has not come back is for a connection
that has no WebSocket yet or has failed.

- `ListenerProcess.mem_lookupsAfter`: the lookups that are under way after an event.
- `ListenerProcess.Serves`: a process that serves.
- `ListenerProcess.after_keeps`: what each event keeps, after a script.
- `ListenerProcess.after_serves`, `ListenerProcess.after_awaits`: what holds of such a process and of
  its lookups.
- `ListenerProcess.looksUp_connecting`: the lookup for a connection that waits for its WebSocket.
-/

namespace Carrier

/-- A dial that succeeds does so in time. -/
theorem Dialer.inTime_of_ok {d : Dialer} {o : DialOptions} {key : HeaderValue} {origin : Origin}
    {established : Established} (h : d.dial o key origin = .ok established) :
    d.inTime o key origin = true := by
  unfold dial at h
  unfold inTime
  cases hvalid : o.validate with
  | error cause =>
    rw [hvalid] at h
    cases h
  | ok _ =>
    rw [hvalid] at h
    cases hwithin : (attempt o key origin).within d.timeout with
    | none =>
      simp only [hwithin] at h
      cases h
    | some result => rfl

namespace Connection

/-- A connection is relayed only after its WebSocket is there. -/
theorem established_of_run {c : Connection} {es : List ConnectionEvent} {r : Relay}
    (hc : ∀ r, c ≠ .relayed r) (h : (c.run es).1 = .relayed r) : .established ∈ es := by
  induction es generalizing c with
  | nil => exact absurd h (hc r)
  | cons e es ih =>
    by_cases he : e = .established
    · rw [he]
      exact List.mem_cons_self
    · refine List.mem_cons_of_mem e (ih ?_ h)
      intro s
      cases c with
      | relayed r => exact absurd rfl (hc r)
      | connecting waiting =>
        cases e with
        | established => exact absurd rfl he
        | _ => nofun
      | failed cause => cases e <;> nofun
      | abandoned => cases e <;> nofun

end Connection

/-- A listener has a new connection only where it has accepted a client. -/
theorem Forwarder.accept_of_run {f : Forwarder} {es : List ForwarderEvent} {c : Nat}
    (h : c < (f.run es).1.connections.length) (hnew : f.connections.length ≤ c) :
    ∃ dial, .accept dial ∈ es := by
  induction es generalizing f with
  | nil => exact absurd h (Nat.not_lt.mpr hnew)
  | cons e es ih =>
    by_cases hnext : (f.step e).1.connections.length ≤ c
    · obtain ⟨dial, hdial⟩ := ih h hnext
      exact ⟨dial, List.mem_cons_of_mem e hdial⟩
    · obtain ⟨-, -, dial, rfl⟩ := step_new (Nat.not_le.mp hnext) hnew
      exact ⟨dial, List.mem_cons_self⟩

namespace ListenerEvent

/-- Only an interrupt shuts a listener down. -/
theorem shutdown_not_seen {e : ListenerEvent} (he : e ≠ .interrupt) (dialer : Dialer)
    (listener : Nat) (f : Forwarder) : .shutdown ∉ e.seenBy dialer listener f := by
  intro hseen
  cases sees_of_mem hseen
  exact he rfl

/-- The WebSocket of a connection is there when its dial has succeeded. -/
theorem established_seen {e : ListenerEvent} {dialer : Dialer} {l c : Nat} {f : Forwarder}
    (h : .established ∈ (e.seenBy dialer l f).filterMap (·.at? c)) :
    ∃ key origin waiting established, e = .dial l c key origin ∧
      f.connections[c]? = some (.connecting waiting) ∧
      dialer.dial f.options key origin = .ok established := by
  obtain ⟨seen, hseen, hat⟩ := List.mem_filterMap.mp h
  cases sees_of_mem hseen with
  | @established connection key origin waiting answer waits dial =>
    obtain ⟨rfl, -⟩ : connection = c ∧ _ := by simpa [ForwarderEvent.at?] using hat
    exact ⟨key, origin, waiting, answer, rfl, waits, dial⟩
  | _ => simp [ForwarderEvent.at?] at hat

/-- A connection that waits for its WebSocket does so no more when its dial has come to an end. -/
theorem dial_decides {dialer : Dialer} {l c : Nat} {f : Forwarder} {before waiting : Relay}
    (hget : f.connections[c]? = some (.connecting before)) (key : HeaderValue) (origin : Origin) :
    ((Connection.connecting before).run
      ((seenBy dialer l f (.dial l c key origin)).filterMap (·.at? c))).1
        ≠ .connecting waiting := by
  unfold seenBy
  simp only [if_true, hget]
  cases dialer.dial f.options key origin with
  | error cause =>
    simp [ForwarderEvent.at?, ConnectionEvent.isSingle, Connection.run, Connection.step]
  | ok established =>
    simp [ForwarderEvent.at?, ConnectionEvent.isSingle, Connection.run, Connection.step,
      Connection.afterRelay]

end ListenerEvent

namespace ListenerProcess

variable {p : ListenerProcess} {e : ListenerEvent} {l c : Nat}

/-! ### The lookups after an event -/

/-- The lookups after an event: what it begins, and what it does not end. -/
theorem mem_lookupsAfter {place : Nat × Nat} :
    place ∈ p.lookupsAfter e ↔
      p.lookupBegun? e = some place ∨ place ∈ p.lookups ∧ p.lookupEnded? e ≠ some place := by
  simp [lookupsAfter]

/-- A lookup begins with a client that is accepted by a listener which dials a name. -/
theorem lookupBegun?_eq_some :
    p.lookupBegun? e = some (l, c) ↔ e = .connect l ∧ ∃ f, p.forwarders[l]? = some f ∧
      f.accepting = true ∧ f.options.looksUp = true ∧ f.connections.length = c := by
  cases e with
  | connect i =>
    dsimp only [lookupBegun?]
    constructor
    · intro h
      cases hget : p.forwarders[i]? with
      | none =>
        rw [hget] at h
        cases h
      | some f =>
        simp only [hget, Option.ite_none_right_eq_some, Bool.and_eq_true, Option.some.injEq,
          Prod.mk.injEq] at h
        obtain ⟨⟨hopen, hlooks⟩, rfl, hlength⟩ := h
        exact ⟨rfl, f, hget, hopen, hlooks, hlength⟩
    · rintro ⟨⟨⟩, f, hget, hopen, hlooks, rfl⟩
      simp only [hget, hopen, hlooks, Bool.and_self, if_true]
  | _ => simp [lookupBegun?]

theorem lookupEnded?_eq_some :
    p.lookupEnded? e = some (l, c) ↔ e = .lookedUp l c ∨
      ∃ key origin f, e = .dial l c key origin ∧ p.connecting? l c = some f ∧
        p.dialer.inTime f.options key origin = true := by
  cases e with
  | dial i connection key origin =>
    dsimp only [lookupEnded?]
    constructor
    · intro h
      cases hwaits : p.connecting? i connection with
      | none =>
        rw [hwaits] at h
        cases h
      | some f =>
        simp only [hwaits, Option.ite_none_right_eq_some, Option.some.injEq, Prod.mk.injEq] at h
        obtain ⟨htime, rfl, rfl⟩ := h
        exact .inr ⟨key, origin, f, rfl, hwaits, htime⟩
    · rintro (⟨⟨⟩⟩ | ⟨_, _, f, ⟨⟩, hwaits, htime⟩)
      simp only [hwaits, htime, if_true]
  | lookedUp i connection => simp [lookupEnded?]
  | _ => simp [lookupEnded?]

/-! ### Serving -/

/-- A process that serves: each of its listeners accepts. -/
structure Serves (p : ListenerProcess) : Prop where
  phase : p.phase = .serving
  accepting : ∀ (l : Nat) (f : Forwarder), p.forwarders[l]? = some f → f.accepting = true

theorem carry_serves (h : p.Serves) (he : e ≠ .interrupt) : (p.carry e).1.Serves := by
  refine ⟨(p.carry_settings e).2.trans h.phase, ?_⟩
  intro l f hget
  rw [p.carry_forwarders he l] at hget
  obtain ⟨g, hg, rfl⟩ := Option.map_eq_some_iff.mp hget
  exact (Forwarder.run_accepting g _).mpr
    ⟨h.accepting l g hg, ListenerEvent.shutdown_not_seen he p.dialer l g⟩

/-- A process that is not interrupted serves, and what each event keeps holds of it. -/
theorem after_keeps {P : ListenerProcess → Prop}
    (hkeeps : ∀ (p : ListenerProcess) (e : ListenerEvent), p.Serves → P p → e ≠ .interrupt →
      P (p.carry e).1)
    (h : p.Serves) (hbegin : P p) {script : List ListenerEvent} (hscript : .interrupt ∉ script) :
    (p.after script).Serves ∧ P (p.after script) := by
  induction script generalizing p with
  | nil => exact ⟨h, hbegin⟩
  | cons e es ih =>
    rw [List.mem_cons, not_or] at hscript
    have he : e ≠ .interrupt := Ne.symm hscript.1
    rw [after_cons, step_serving h.phase he]
    exact ih (carry_serves h he) (hkeeps p e h hbegin he) hscript.2

/-- A process that is not interrupted serves. -/
theorem after_serves (h : p.Serves) {script : List ListenerEvent} (hscript : .interrupt ∉ script) :
    (p.after script).Serves :=
  (after_keeps (P := fun _ => True) (fun _ _ _ _ _ => trivial) h trivial hscript).1

/-- The listener with an index after an event. -/
theorem carry_get (he : e ≠ .interrupt) {f : Forwarder} (hf : p.forwarders[l]? = some f) :
    (p.carry e).1.forwarders[l]? = some (f.run (e.seenBy p.dialer l f)).1 := by
  rw [p.carry_forwarders he, hf]
  rfl

/-- What becomes of a connection that is there. -/
theorem carry_connection (h : p.Serves) (he : e ≠ .interrupt) {f : Forwarder} {before : Connection}
    (hf : p.forwarders[l]? = some f) (hget : f.connections[c]? = some before) :
    (p.carry e).1.connection? l c
      = some (before.run ((e.seenBy p.dialer l f).filterMap (·.at? c))).1 := by
  have hholds : f.Holds c before :=
    ⟨hget, fun hclosed => nomatch (h.accepting l f hf).symm.trans hclosed⟩
  unfold connection?
  rw [carry_get he hf]
  exact (Forwarder.run_projection hholds _).1.get

/-- A client that connects is accepted, and its connection waits for a WebSocket. -/
theorem carry_connect (h : p.Serves) {f : Forwarder} (hf : p.forwarders[l]? = some f) :
    (p.carry (.connect l)).1.connection? l f.connections.length
      = some (.connecting { limits := f.limits, deadline := f.deadline }) := by
  have hseen : (ListenerEvent.connect l).seenBy p.dialer l f = [.accept .pending] := if_pos rfl
  unfold connection?
  rw [carry_get ListenerEvent.noConfusion hf, hseen]
  show (f.step (.accept .pending)).1.connections[f.connections.length]? = _
  rw [Forwarder.step_accept (h.accepting l f hf)]
  exact List.getElem?_concat_length

/-! ### Lookups while a process serves -/

/-- Each lookup of a process is for a connection of a listener which dials a name, and this
connection is not relayed. -/
def Awaits (p : ListenerProcess) : Prop :=
  ∀ l c, (l, c) ∈ p.lookups → ∃ f connection, p.forwarders[l]? = some f ∧
    f.options.looksUp = true ∧ p.connection? l c = some connection ∧ ∀ r, connection ≠ .relayed r

theorem carry_awaits (h : p.Serves) (hawaits : p.Awaits) (he : e ≠ .interrupt) :
    (p.carry e).1.Awaits := by
  intro l c hplace
  have hkept {f : Forwarder} (hlooks : f.options.looksUp = true) :
      (f.run (e.seenBy p.dialer l f)).1.options.looksUp = true := by
    rw [f.run_options, hlooks]
  rcases mem_lookupsAfter.mp hplace with hbegun | ⟨hout, hended⟩
  · -- the connection has just been accepted
    obtain ⟨rfl, f, hf, -, hlooks, rfl⟩ := lookupBegun?_eq_some.mp hbegun
    have hget := carry_connect h hf
    exact ⟨_, _, carry_get he hf, hkept hlooks, hget, fun r => Connection.noConfusion⟩
  · obtain ⟨f, before, hf, hlooks, hget, hbefore⟩ := hawaits l c hout
    unfold connection? at hget
    rw [hf] at hget
    have hafter := carry_connection h he hf hget
    refine ⟨_, _, carry_get he hf, hkept hlooks, hafter, ?_⟩
    -- only a dial that ends in time leads to a relay, and such a dial ends the lookup
    intro r hrelayed
    obtain ⟨key, origin, waiting, established, rfl, hwaiting, hdial⟩ :=
      ListenerEvent.established_seen (Connection.established_of_run hbefore hrelayed)
    refine hended (lookupEnded?_eq_some.mpr (.inr ⟨key, origin, f, rfl, ?_, ?_⟩))
    · exact p.connecting?_eq_some.mpr ⟨hf, waiting, hwaiting⟩
    · exact Dialer.inTime_of_ok hdial

/-- No lookup of a process that is not interrupted is for a connection that is relayed. -/
theorem after_awaits (h : p.Serves) (hawaits : p.Awaits) {script : List ListenerEvent}
    (hscript : .interrupt ∉ script) : (p.after script).Awaits :=
  (after_keeps (fun _ _ h hawaits he => carry_awaits h hawaits he) h hawaits hscript).2

/-- A connection that waits for its WebSocket after an event did so before, and its dial has not
come to an end; or it has just been accepted. -/
theorem connecting_of_carry (h : p.Serves) (he : e ≠ .interrupt) {waiting : Relay}
    (hget : (p.carry e).1.connection? l c = some (.connecting waiting)) :
    (∃ before, p.connection? l c = some (.connecting before) ∧
        ∀ key origin, e ≠ .dial l c key origin) ∨
      e = .connect l ∧ ∃ f, p.forwarders[l]? = some f ∧ f.connections.length = c := by
  obtain ⟨g, hg, hc⟩ := Option.bind_eq_some_iff.mp hget
  rw [p.carry_forwarders he l] at hg
  obtain ⟨f, hf, rfl⟩ := Option.map_eq_some_iff.mp hg
  cases hbefore : f.connections[c]? with
  | some before =>
    have hafter := (carry_connection h he hf hbefore).symm.trans hget
    obtain ⟨⟨wait, rfl⟩, -⟩ := Connection.run_connecting (Option.some.inj hafter)
    refine .inl ⟨wait, Option.bind_eq_some_iff.mpr ⟨f, hf, hbefore⟩, ?_⟩
    rintro key origin rfl
    exact ListenerEvent.dial_decides hbefore key origin (Option.some.inj hafter)
  | none =>
    have hnew := List.getElem?_eq_none_iff.mp hbefore
    have hbound := (List.getElem?_eq_some_iff.mp hc).1
    obtain ⟨dial, hdial⟩ := Forwarder.accept_of_run hbound hnew
    cases ListenerEvent.sees_of_mem hdial
    have hseen : (ListenerEvent.connect l).seenBy p.dialer l f = [.accept .pending] := if_pos rfl
    rw [hseen] at hbound
    change c < (f.step (.accept .pending)).1.connections.length at hbound
    exact .inr ⟨rfl, f, hf, (Forwarder.step_new hbound hnew).2.1.symm⟩

/-- As long as a connection waits for its WebSocket, its lookup is under way where a name is dialed
and the lookup has not come back. -/
theorem looksUp_connecting (h : p.Serves)
    (hnone : ∀ (l : Nat) (f : Forwarder), p.forwarders[l]? = some f → f.connections = [])
    {script : List ListenerEvent} (hscript : .interrupt ∉ script) {f : Forwarder} {waiting : Relay}
    (hf : (p.after script).forwarders[l]? = some f) (hlooks : f.options.looksUp = true)
    (hget : (p.after script).connection? l c = some (.connecting waiting))
    (hout : .lookedUp l c ∉ script) : (l, c) ∈ (p.after script).lookups := by
  -- on what has happened; its last event is the last step
  induction script using List.reverseRecOn generalizing f waiting with
  | nil =>
    obtain ⟨g, hg, hc⟩ := Option.bind_eq_some_iff.mp hget
    rw [hnone l g hg] at hc
    cases hc
  | append_singleton es e ih =>
    simp only [List.mem_append, List.mem_singleton, not_or] at hscript hout
    have hserves := after_serves h hscript.1
    have he : e ≠ .interrupt := Ne.symm hscript.2
    rw [after_snoc, step_serving hserves.phase he] at hf hget ⊢
    rw [(p.after es).carry_forwarders he l] at hf
    obtain ⟨g, hg, rfl⟩ := Option.map_eq_some_iff.mp hf
    rw [g.run_options] at hlooks
    refine mem_lookupsAfter.mpr ?_
    rcases connecting_of_carry hserves he hget with ⟨before, hbefore, hdial⟩ | ⟨rfl, f, hf, hlength⟩
    · refine .inr ⟨ih hscript.1 hg hlooks hbefore hout.1, ?_⟩
      rw [Ne, lookupEnded?_eq_some]
      rintro (rfl | ⟨key, origin, -, rfl, -⟩)
      · exact hout.2 rfl
      · exact hdial key origin rfl
    · cases hg.symm.trans hf
      exact .inl (lookupBegun?_eq_some.mpr
        ⟨rfl, g, hg, hserves.accepting l g hg, hlooks, hlength⟩)

end ListenerProcess

end Carrier
