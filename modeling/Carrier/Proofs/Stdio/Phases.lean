import Carrier.Proofs.Relay.Clock
import Carrier.Stdio

/-!
# The phases of a tunnel

A tunnel waits for its dial, and relays when the dial has succeeded; when it has failed, or the
tunnel was called off before, nothing more happens.

- `Stdio.run`, `Stdio.states`: a tunnel over a whole script.
- `StdioEvent.decides`: the events that end the waiting.
- `Stdio.run_waiting`, `Stdio.run_relaying`, `Stdio.run_failed`: each phase over a script.
- `Stdio.Opened`: the events around the success of a dial.
- `Stdio.run_opened`: a tunnel whose dial succeeds is a relay.
-/

namespace Carrier

namespace StdioEvent

/-- What waits on one of the sides of a tunnel while its dial is pending. -/
def waits? : StdioEvent → Option Event
  | .relay .cancel | .relay (.advance _) => none
  | .relay e => some e
  | _ => none

/-- What the relay of a tunnel notices. -/
def noticed? : StdioEvent → Option Event
  | .relay e => some e
  | _ => none

/-- Whether an event decides what becomes of a tunnel that waits for its dial. -/
def decides : StdioEvent → Bool
  | .established | .dialFailed _ | .relay .cancel => true
  | _ => false

/-- The clock does not wait. -/
theorem waits_stand (waiting : List StdioEvent) :
    ∀ e ∈ waiting.filterMap (·.waits?), e.isAdvance = false := by
  intro e he
  obtain ⟨event, -, hevent⟩ := List.mem_filterMap.mp he
  cases event with
  | relay own => cases own <;> cases hevent <;> rfl
  | _ => cases hevent

end StdioEvent

namespace Stdio

/-- A tunnel after a script, with all of its traffic. -/
def run (s : Stdio) : List StdioEvent → Stdio × Traffic
  | [] => (s, Traffic.none)
  | e :: es =>
    let (next, first, _) := s.step e
    let (last, rest) := next.run es
    (last, first.followedBy rest)

/-- A tunnel, its traffic and its records after each event of a script. -/
def states (s : Stdio) : List StdioEvent → List (Stdio × Traffic × List LogRecord)
  | [] => []
  | e :: es =>
    let next := s.step e
    next :: next.1.states es

theorem run_append (s : Stdio) (es fs : List StdioEvent) :
    s.run (es ++ fs)
      = (((s.run es).1.run fs).1, (s.run es).2.followedBy ((s.run es).1.run fs).2) := by
  induction es generalizing s with
  | nil => simp [run]
  | cons e es ih => simp [run, ih, Traffic.followedBy_assoc]

theorem run_cons (s : Stdio) (e : StdioEvent) (es : List StdioEvent) :
    s.run (e :: es)
      = (((s.step e).1.run es).1, (s.step e).2.1.followedBy ((s.step e).1.run es).2) :=
  rfl

/-- Options that can be dialed lead to the dial. -/
theorem start_valid {options : DialOptions} (h : options.validate = .ok ()) (limits : Limits)
    (deadline : Option Duration) (dial : DialOutcome) :
    let begun : Relay := { limits := limits, deadline := deadline }
    start options limits deadline dial =
      match dial with
      | .established => (⟨options, .relaying, begun.settle.1⟩, begun.settle.2, [opened options])
      | .pending => (⟨options, .connecting, begun⟩, Traffic.none, [])
      | .failed cause =>
        (fail ⟨options, .connecting, begun⟩ (.dial cause), Traffic.none, []) := by
  unfold start
  rw [h]
  rfl

/-! ### A dial that is pending -/

section Waiting

variable (options : DialOptions) (w : Relay)

/-- An event that does not decide the dial waits for the relay. -/
theorem step_waiting {e : StdioEvent} (he : e.decides = false) :
    step ⟨options, .connecting, w⟩ e
      = (⟨options, .connecting, e.waits?.toList.foldl Relay.absorb w⟩, Traffic.none, []) := by
  cases e with
  | established => cases he
  | dialFailed cause => cases he
  | relay e => cases e <;> first | rfl | cases he

/-- While the dial is pending, what happens on the sides waits. -/
theorem run_waiting {es : List StdioEvent} (h : ∀ e ∈ es, e.decides = false) :
    run ⟨options, .connecting, w⟩ es
      = (⟨options, .connecting, (es.filterMap (·.waits?)).foldl Relay.absorb w⟩, Traffic.none) := by
  induction es generalizing w with
  | nil => rfl
  | cons e es ih =>
    have hrest := fun f hf => h f (List.mem_cons_of_mem e hf)
    rw [run_cons, step_waiting options w (h e List.mem_cons_self), ih _ hrest]
    cases hwaits : e.waits? <;> simp [hwaits]

/-- Nothing is sent or reported while the dial is pending. -/
theorem states_waiting {es : List StdioEvent} (h : ∀ e ∈ es, e.decides = false) :
    ∀ x ∈ states ⟨options, .connecting, w⟩ es,
      x.1.phase = .connecting ∧ x.1.relay.shutdowns = w.shutdowns ∧ x.2 = (Traffic.none, []) := by
  induction es generalizing w with
  | nil => exact fun x hx => absurd hx List.not_mem_nil
  | cons e es ih =>
    have hrest := fun f hf => h f (List.mem_cons_of_mem e hf)
    have hshutdowns : (e.waits?.toList.foldl Relay.absorb w).shutdowns = w.shutdowns := by
      cases e.waits? with
      | none => rfl
      | some event =>
        show (w.absorb event).shutdowns = w.shutdowns
        rw [w.absorb_eq event]
    intro x hx
    simp only [states, step_waiting options w (h e List.mem_cons_self), List.mem_cons] at hx
    rcases hx with rfl | hx
    · exact ⟨rfl, hshutdowns, rfl⟩
    · rw [← hshutdowns]
      exact ih _ hrest x hx

end Waiting

/-! ### A tunnel that has failed -/

theorem step_failed {s : Stdio} {cause : TunnelError} (hphase : s.phase = .failed cause)
    (e : StdioEvent) : s.step e = (s, Traffic.none, []) := by
  obtain ⟨options, phase, relay⟩ := s
  cases hphase
  cases e <;> rfl

theorem run_failed {s : Stdio} {cause : TunnelError} (hphase : s.phase = .failed cause)
    (es : List StdioEvent) : s.run es = (s, Traffic.none) := by
  induction es with
  | nil => rfl
  | cons e es ih => simp [run, step_failed hphase, ih]

/-- An event that makes a tunnel fail which waits for its dial is the last thing to happen. -/
theorem run_given_up (options : DialOptions) (w : Relay) {waiting : List StdioEvent}
    (h : ∀ e ∈ waiting, e.decides = false) (e : StdioEvent) (cause : TunnelError)
    (hstep : ∀ w : Relay, step ⟨options, .connecting, w⟩ e
      = (fail ⟨options, .connecting, w⟩ cause, Traffic.none, []))
    (more : List StdioEvent) :
    run ⟨options, .connecting, w⟩ (waiting ++ e :: more)
      = (fail ⟨options, .connecting, (waiting.filterMap (·.waits?)).foldl Relay.absorb w⟩ cause,
          Traffic.none) := by
  rw [run_append, run_waiting options w h, run_cons, hstep, run_failed rfl]
  rfl

/-! ### A tunnel that relays -/

theorem states_relaying (options : DialOptions) (r : Relay) (es : List Event) :
    states ⟨options, .relaying, r⟩ (es.map .relay)
      = (r.states es).map fun x => (⟨options, .relaying, x.1⟩, x.2, []) := by
  induction es generalizing r with
  | nil => rfl
  | cons e es ih => exact congrArg (_ :: ·) (ih (r.step e).1)

/-- A tunnel that relays does what its relay does. -/
theorem run_relaying (options : DialOptions) (r : Relay) (es : List StdioEvent) :
    run ⟨options, .relaying, r⟩ es
      = (⟨options, .relaying, (r.run (es.filterMap (·.noticed?))).1⟩,
          (r.run (es.filterMap (·.noticed?))).2) := by
  induction es generalizing r with
  | nil => rfl
  | cons e es ih =>
    cases e with
    | relay event =>
      show ((run ⟨options, .relaying, (r.step event).1⟩ es).1,
        (r.step event).2.followedBy (run ⟨options, .relaying, (r.step event).1⟩ es).2) = _
      rw [ih]
      rfl
    | established => exact ih r
    | dialFailed cause => exact ih r

/-- When the dial succeeds, the relay begins with what has waited. -/
theorem run_established (options : DialOptions) (w : Relay) (es : List StdioEvent) :
    run ⟨options, .connecting, w⟩ (.established :: es)
      = (⟨options, .relaying, (w.session (es.filterMap (·.noticed?))).1⟩,
          (w.session (es.filterMap (·.noticed?))).2) := by
  rw [run_cons]
  show ((run ⟨options, .relaying, w.settle.1⟩ es).1,
    w.settle.2.followedBy (run ⟨options, .relaying, w.settle.1⟩ es).2) = _
  rw [run_relaying]
  rfl

/-- `Opened dial es early late`: the dial of a tunnel succeeds, at once or in the course of the
events `es`; what happens before on its sides is `early`, and what its relay notices is `late`. -/
inductive Opened : DialOutcome → List StdioEvent → List Event → List Event → Prop where
  | atOnce (es : List StdioEvent) : Opened .established es [] (es.filterMap (·.noticed?))
  | later {waiting : List StdioEvent} (hwaits : ∀ e ∈ waiting, e.decides = false)
    (es : List StdioEvent) :
    Opened .pending (waiting ++ .established :: es) (waiting.filterMap (·.waits?))
      (es.filterMap (·.noticed?))

/-- A tunnel whose dial succeeds is a relay that begins with what has waited. -/
theorem run_opened {options : DialOptions} (hvalid : options.validate = .ok ()) (limits : Limits)
    (deadline : Option Duration) {dial : DialOutcome} {es : List StdioEvent}
    {early late : List Event} (h : Opened dial es early late) :
    let begun : Relay := { limits := limits, deadline := deadline }
    let alone := (early.foldl Relay.absorb begun).session late
    let started := start options limits deadline dial
    (started.1.run es).1 = ⟨options, .relaying, alone.1⟩ ∧
      started.2.1.followedBy (started.1.run es).2 = alone.2 := by
  intro begun alone started
  have hstart : started = _ := start_valid hvalid limits deadline dial
  rw [hstart]
  cases h with
  | atOnce es =>
    have := run_established options begun es
    rw [run_cons] at this
    exact Prod.mk.inj this
  | later hwaits es =>
    show (run ⟨options, .connecting, begun⟩ _).1 = _ ∧
      Traffic.none.followedBy (run ⟨options, .connecting, begun⟩ _).2 = _
    rw [run_append, run_waiting options begun hwaits, run_established]
    exact ⟨rfl, rfl⟩

end Stdio

end Carrier
