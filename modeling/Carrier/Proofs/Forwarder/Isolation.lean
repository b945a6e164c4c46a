import Carrier.Proofs.Forwarder.Projection
import Carrier.Proofs.Relay.Waiting
import Mathlib.Data.List.TakeWhile

/-!
# The isolation of connections

Each connection of a forwarder is relayed as if it were alone.

- `ConnectionEvent.own?`, `ConnectionEvent.noticed?`: the events that concern a connection.
- `Dialed`: the events around the success of a dial.
- `Connection.run_dialed`: a connection whose dial succeeds is a relay.
- `Forwarder.run_isolated`: so is each connection of a forwarder.
-/

namespace Carrier

namespace ConnectionEvent

/-- What happens on one of the sides of a connection. -/
def own? : ConnectionEvent → Option Event
  | .relay e => if Connection.isOwn e then some e else none
  | _ => none

/-- What a relay notices: what happens on its sides, and the clock. -/
def noticed? : ConnectionEvent → Option Event
  | .advance span => some (.advance span)
  | e => e.own?

/-- Whether an event decides what becomes of a dial. -/
def decides : ConnectionEvent → Bool
  | .established | .dialFailed _ | .shutdown => true
  | _ => false

end ConnectionEvent

/-- `Dialed dial es early late`: the dial for a connection succeeds, at once or in the course of
the events `es`; what happens before on the sides of the connection is `early`, and what its relay
notices afterwards is `late`. -/
inductive Dialed : DialOutcome → List ConnectionEvent → List Event → List Event → Prop where
  | atOnce (es : List ConnectionEvent) :
    Dialed .established es [] (es.filterMap (·.noticed?))
  | later {waiting : List ConnectionEvent} (hwaits : ∀ e ∈ waiting, e.decides = false)
    (es : List ConnectionEvent) :
    Dialed .pending (waiting ++ .established :: es) (waiting.filterMap (·.own?))
      (es.filterMap (·.noticed?))

namespace Connection

/-! ### One connection -/

theorem run_cons (c : Connection) (e : ConnectionEvent) (es : List ConnectionEvent) :
    c.run (e :: es)
      = (((c.step e).1.run es).1, (c.step e).2.1.followedBy ((c.step e).1.run es).2) :=
  rfl

theorem run_fixed {c : Connection} (h : ∀ e, c.step e = (c, Traffic.none, []))
    (es : List ConnectionEvent) : c.run es = (c, Traffic.none) := by
  induction es with
  | nil => rfl
  | cons e es ih => simp [run, h, ih]

theorem run_failed (cause : DialError) (es : List ConnectionEvent) :
    (Connection.failed cause).run es = (.failed cause, Traffic.none) :=
  run_fixed (fun e => by cases e <;> rfl) es

theorem run_abandoned (es : List ConnectionEvent) :
    Connection.abandoned.run es = (.abandoned, Traffic.none) :=
  run_fixed (fun e => by cases e <;> rfl) es

theorem relayStep_eq (r : Relay) (e : Event) :
    (relayStep r e).1 = .relayed (r.step e).1 ∧ (relayStep r e).2.1 = (r.step e).2 := by
  unfold relayStep
  cases hc : r.cause with
  | none => exact ⟨rfl, rfl⟩
  | some cause =>
    have hended : r.cause ≠ none := by rw [hc]; nofun
    rw [Relay.step_ended hended]
    exact ⟨rfl, rfl⟩

/-- A relay takes the events that it notices. -/
theorem step_relayed (r : Relay) (e : ConnectionEvent) :
    ((Connection.relayed r).step e).1 = .relayed (r.run e.noticed?.toList).1 ∧
      ((Connection.relayed r).step e).2.1 = (r.run e.noticed?.toList).2 := by
  have hstep (e : Event) : r.run [e] = r.step e := by simp [Relay.run]
  cases e with
  | advance span =>
    show (relayStep r _).1 = .relayed (r.run [.advance span]).1 ∧
      (relayStep r _).2.1 = (r.run [.advance span]).2
    rw [hstep]
    exact relayStep_eq r (.advance span)
  | relay event =>
    cases hown : isOwn event with
    | false =>
      simp [step, hown, ConnectionEvent.noticed?, ConnectionEvent.own?, Relay.run]
    | true =>
      simp only [step, hown, ConnectionEvent.noticed?, ConnectionEvent.own?, if_true,
        Option.toList_some, hstep]
      exact relayStep_eq r event
  | _ => exact ⟨rfl, rfl⟩

theorem run_relayed (r : Relay) (es : List ConnectionEvent) :
    (Connection.relayed r).run es =
      (.relayed (r.run (es.filterMap (·.noticed?))).1, (r.run (es.filterMap (·.noticed?))).2) := by
  induction es generalizing r with
  | nil => rfl
  | cons e es ih =>
    obtain ⟨hnext, hfirst⟩ := step_relayed r e
    rw [filterMap_cons_toList, Relay.run_append, run_cons, hnext, hfirst, ih]

/-- While a dial is pending, what happens on the sides waits. -/
theorem run_waiting (w : Relay) {es : List ConnectionEvent} (h : ∀ e ∈ es, e.decides = false) :
    (Connection.connecting w).run es =
      (.connecting ((es.filterMap (·.own?)).foldl Relay.absorb w), Traffic.none) := by
  induction es generalizing w with
  | nil => rfl
  | cons e es ih =>
    have hstep : (Connection.connecting w).step e
        = (.connecting (e.own?.toList.foldl Relay.absorb w), Traffic.none, []) := by
      cases e with
      | relay event =>
        cases hown : isOwn event <;> simp [step, hown, ConnectionEvent.own?]
      | advance span => rfl
      | _ => cases h _ List.mem_cons_self
    rw [filterMap_cons_toList, List.foldl_append, run_cons, hstep,
      ih _ fun e he => h e (List.mem_cons_of_mem _ he)]
    rfl

/-- When the dial succeeds, the relay begins. -/
theorem run_established (w : Relay) (es : List ConnectionEvent) :
    (Connection.connecting w).run (.established :: es) =
      (.relayed (w.session (es.filterMap (·.noticed?))).1,
        (w.session (es.filterMap (·.noticed?))).2) := by
  rw [run_cons]
  show (((Connection.relayed w.settle.1).run es).1,
    w.settle.2.followedBy ((Connection.relayed w.settle.1).run es).2) = _
  rw [run_relayed]
  rfl

/-- A connection whose dial succeeds is a relay that begins with what has waited. -/
theorem run_dialed (limits : Limits) (deadline : Option Duration) {dial : DialOutcome}
    {es : List ConnectionEvent} {early late : List Event} (h : Dialed dial es early late) :
    let begun : Relay := { limits := limits, deadline := deadline }
    let alone := (early.foldl Relay.absorb begun).session late
    let accepted := accept limits deadline dial
    (accepted.1.run es).1 = .relayed alone.1 ∧
      accepted.2.1.followedBy (accepted.1.run es).2 = alone.2 := by
  intro begun alone accepted
  cases h with
  | atOnce =>
    have := run_established begun es
    rw [run_cons] at this
    exact Prod.mk.inj this
  | later hwaits es =>
    show ((Connection.connecting begun).run _).1 = _ ∧
      Traffic.none.followedBy ((Connection.connecting begun).run _).2 = _
    rw [run_append, run_waiting begun hwaits, run_established]
    exact ⟨rfl, rfl⟩

/-- Events either leave a dial undecided, or one of them is the first to decide it. -/
theorem decides_cases (es : List ConnectionEvent) :
    (∀ e ∈ es, e.decides = false) ∨ ∃ waiting e rest, es = waiting ++ e :: rest ∧
      (∀ e ∈ waiting, e.decides = false) ∧ e.decides = true := by
  induction es with
  | nil => exact .inl nofun
  | cons e es ih =>
    cases he : e.decides with
    | true => exact .inr ⟨[], e, es, rfl, nofun, he⟩
    | false =>
      rcases ih with hall | ⟨waiting, first, rest, rfl, hwaits, hfirst⟩
      · exact .inl (List.forall_mem_cons.mpr ⟨he, hall⟩)
      · exact .inr ⟨e :: waiting, first, rest, rfl, List.forall_mem_cons.mpr ⟨he, hwaits⟩, hfirst⟩

/-- A connection that waits becomes a relay only when its dial succeeds. -/
theorem established_of_relayed {w r : Relay} {es : List ConnectionEvent}
    (h : ((Connection.connecting w).run es).1 = .relayed r) :
    ∃ waiting rest, es = waiting ++ .established :: rest ∧
      ∀ e ∈ waiting, e.decides = false := by
  rcases decides_cases es with hwaits | ⟨waiting, e, rest, rfl, hwaits, hdecides⟩
  · rw [run_waiting w hwaits] at h
    cases h
  · -- the first event that decides the dial has to be its success
    rw [run_append, run_waiting w hwaits, run_cons] at h
    cases e with
    | established => exact ⟨waiting, rest, rfl, hwaits⟩
    | dialFailed cause =>
      replace h : ((Connection.failed cause).run rest).1 = .relayed r := h
      rw [run_failed] at h
      cases h
    | shutdown =>
      replace h : (Connection.abandoned.run rest).1 = .relayed r := h
      rw [run_abandoned] at h
      cases h
    | _ => cases hdecides

/-- Only the success of a dial makes a connection a relay. -/
theorem dialed_of_relayed {limits : Limits} {deadline : Option Duration} {dial : DialOutcome}
    {es : List ConnectionEvent} {r : Relay}
    (h : ((accept limits deadline dial).1.run es).1 = .relayed r) :
    ∃ early late, Dialed dial es early late := by
  cases dial with
  | established => exact ⟨_, _, .atOnce es⟩
  | failed cause =>
    replace h : ((Connection.failed cause).run es).1 = .relayed r := h
    rw [run_failed] at h
    cases h
  | pending =>
    obtain ⟨waiting, rest, rfl, hwaits⟩ := established_of_relayed h
    exact ⟨_, _, .later hwaits rest⟩

end Connection

/-! ### The connections of a forwarder -/

namespace Forwarder

/-- A connection that is accepted is the last one. -/
theorem accept_holds {f : Forwarder} (hopen : f.accepting = true) (dial : DialOutcome) :
    (f.step (.accept dial)).1.Holds f.connections.length
        (Connection.accept f.limits f.deadline dial).1 ∧
      (f.step (.accept dial)).2.sentBy f.connections.length
        = (Connection.accept f.limits f.deadline dial).2.1 := by
  rw [step_accept hopen]
  refine ⟨⟨?_, fun hclosed => ?_⟩, ?_⟩
  · exact List.getElem?_concat_length
  · rw [hopen] at hclosed
    cases hclosed
  · rw [ForwarderOutput.sentBy_single, if_pos rfl]

/-- Whatever else a forwarder does, an accepted connection is relayed if and only if its dial
succeeds, and then exactly as a relay would be that is alone with its sides and the clock: it
comes to the same state, and sends the same to both sides. What its application wrote while the
dial was pending counts as written when the relay began. -/
theorem run_isolated (f : Forwarder) (before after : List ForwarderEvent) (dial : DialOutcome)
    (hopen : (f.run before).1.accepting = true) :
    let index := (f.run before).1.connections.length
    let last := f.run (before ++ .accept dial :: after)
    let seen := after.filterMap (·.at? index)
    let begun : Relay := { limits := f.limits, deadline := f.deadline }
    (∀ early late, Dialed dial seen early late →
      let alone := (early.foldl Relay.absorb begun).session late
      last.1.connections[index]? = some (.relayed alone.1) ∧ last.2.sentBy index = alone.2 ∧
      ((∀ e ∈ early, e.isLocal = true) → (∀ e ∈ early.dropLast, e.endsData = false) →
        (∀ limit, f.deadline = some limit → ¬ limit ≤ ⟨0⟩) →
          alone = begun.session (early ++ late))) ∧
    (∀ r, last.1.connections[index]? = some (.relayed r) →
      ∃ early late, Dialed dial seen early late) := by
  intro index last seen begun
  obtain ⟨hlimits, hdeadline⟩ := run_settings f before
  obtain ⟨haccepted, hfirst⟩ := accept_holds hopen dial
  obtain ⟨hlast, hrest⟩ := run_projection haccepted after
  rw [hlimits, hdeadline] at hfirst hlast hrest
  -- before it was accepted the connection sent nothing, whatever the others did
  have hquiet : (f.run before).2.sentBy index = Traffic.none := (run_beyond (Nat.le_refl _)).2
  have hsplit : last = (((f.run before).1.step (.accept dial)).1.run after |>.1,
      (f.run before).2.followedBy (((f.run before).1.step (.accept dial)).2.followedBy
        (((f.run before).1.step (.accept dial)).1.run after).2)) := by
    show f.run _ = _
    rw [run_append, run_cons]
  rw [hsplit]
  refine ⟨fun early late hdialed => ?_, fun r hr => ?_⟩
  · obtain ⟨hstate, hsent⟩ :=
      Connection.run_dialed f.limits f.deadline hdialed
    refine ⟨?_, ?_, fun hlocal hends htime => ?_⟩
    · rw [← hstate]
      exact hlast.get
    · rw [ForwarderOutput.sentBy_followedBy, ForwarderOutput.sentBy_followedBy, hquiet, hfirst,
        hrest, ← hsent]
      rfl
    · have hbegun : begun.Quiet := ⟨rfl, rfl, rfl, htime⟩
      exact hbegun.session_waiting rfl hlocal hends late
  · have := Option.some.inj (hlast.get.symm.trans hr)
    exact Connection.dialed_of_relayed this

/-- The second of two connections, whose dial succeeds after its application has written and before
the forwarder is shut down, while the first one fails. -/
theorem run_isolated_second :
    let f : Forwarder :=
      { options := { origin := "ws://localhost" }, address := ⟨"127.0.0.1", 8080⟩ }
    let before : List ForwarderEvent := [.accept .pending]
    let after : List ForwarderEvent :=
      [.connection 1 (.relay (.localWrite [104, 105])), .connection 0 (.dialFailed (.tls "eof")),
        .connection 1 .established, .shutdown, .connection 1 (.relay (.remoteBytes [130, 1, 7]))]
    let last := f.run (before ++ .accept .pending :: after)
    let begun : Relay := {}
    let alone := begun.session [.localWrite [104, 105], .remoteBytes [130, 1, 7]]
    (f.run before).1.accepting = true ∧
      last.1.connections[1]? = some (.relayed alone.1) ∧ last.2.sentBy 1 = alone.2 := by
  intro f before after last begun alone
  have hopen : (f.run before).1.accepting = true := rfl
  have hwaits : ∀ e ∈ ([.relay (.localWrite [104, 105])] : List ConnectionEvent),
      e.decides = false := by decide
  have hdialed : Dialed .pending (after.filterMap (·.at? 1)) [.localWrite [104, 105]]
      [.remoteBytes [130, 1, 7]] :=
    .later hwaits [.shutdown, .relay (.remoteBytes [130, 1, 7])]
  obtain ⟨hrelayed, hsent, hsame⟩ :=
    (run_isolated f before after .pending hopen).1 _ _ hdialed
  rw [hsame (by decide) (by decide) nofun] at hrelayed hsent
  exact ⟨hopen, hrelayed, hsent⟩

end Forwarder

end Carrier
