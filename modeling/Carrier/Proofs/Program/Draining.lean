import Carrier.Proofs.Program.Beginning
import Carrier.Proofs.Program.Serving

/-!
# A process of listeners drains

After the first interrupt a process takes no clients any more and stays for the relays that it has:
those of all of its listeners, each of which goes on by itself. Then, or after a second interrupt,
it stays for the lookups that it cannot call off, also those for connections that it has given up.

- `ListenerEvent.noticed?`: what the relay of one connection notices of an event.
- `Forwarder.step_idle`: a listener that is shut down and looks after nothing.
- `ListenerProcess.HasLeft`: a process that has nothing else to do.
- `ListenerProcess.after_interrupt`: a process that is interrupted once.
- `Program.listening_drains`: when such a program exits.
- `Program.listening_stays`: a program that does not exit when it is interrupted twice.
-/

namespace Carrier

namespace ListenerEvent

/-- What an event of a process that is interrupted is for one of its listeners. No connection waits
for a dial any more. -/
def at? (listener : Nat) : ListenerEvent → Option ForwarderEvent
  | .connect l => if l = listener then some (.accept .pending) else none
  | .acceptFault l fault => if l = listener then some (.acceptFault fault) else none
  | .relay l connection event =>
    if l = listener then some (.connection connection (.relay event)) else none
  | .advance span => some (.advance span)
  | .dial .. | .lookedUp .. | .interrupt => none

/-- What the relay of one connection notices of an event: what happens on its own sides, and the
clock. -/
def noticed? (listener connection : Nat) : ListenerEvent → Option Event
  | .relay l c event =>
    if l = listener ∧ c = connection ∧ Connection.isOwn event then some event else none
  | .advance span => some (.advance span)
  | _ => none

theorem noticedAt_at? (listener connection : Nat) (script : List ListenerEvent) :
    ForwarderEvent.noticedAt connection (script.filterMap (·.at? listener))
      = script.filterMap (·.noticed? listener connection) := by
  have hsame (e : ListenerEvent) :
      ((e.at? listener).bind (·.at? connection)).bind (·.noticed?)
        = e.noticed? listener connection := by
    cases e with
    | connect l => by_cases hl : l = listener <;> simp [at?, noticed?, ForwarderEvent.at?, hl]
    | acceptFault l fault =>
      by_cases hl : l = listener <;> simp [at?, noticed?, ForwarderEvent.at?, hl]
    | relay l c event =>
      by_cases hl : l = listener <;> by_cases hc : c = connection <;>
        simp [at?, noticed?, ForwarderEvent.at?, ConnectionEvent.isSingle,
          ConnectionEvent.noticed?, ConnectionEvent.own?, hl, hc]
    | _ => rfl
  simp only [ForwarderEvent.noticedAt, List.filterMap_filterMap, ← hsame, Option.bind_assoc]

/-- Where no connection waits for a dial, the end of one is not seen. -/
theorem seenBy_closed {e : ListenerEvent} (he : e ≠ .interrupt) (dialer : Dialer)
    (listener : Nat) {f : Forwarder}
    (hf : ∀ (c : Nat) (waiting : Relay), f.connections[c]? ≠ some (.connecting waiting)) :
    e.seenBy dialer listener f = (e.at? listener).toList := by
  cases e with
  | interrupt => exact absurd rfl he
  | dial l connection key origin =>
    unfold seenBy
    dsimp only
    split
    · split
      · rename_i waiting hwaiting
        exact absurd hwaiting (hf connection waiting)
      · rfl
    · rfl
  | advance span => rfl
  | lookedUp l connection => rfl
  | _ =>
    unfold seenBy at?
    dsimp only
    split <;> rfl

end ListenerEvent

/-! ### Nothing is left to do -/

/-- What is not looked after does not change. -/
theorem Connection.step_idle {c : Connection} (h : c.isHandled = false) (e : ConnectionEvent) :
    (c.step e).1 = c := by
  cases c with
  | connecting waiting => cases h
  | failed cause => cases e <;> rfl
  | abandoned => cases e <;> rfl
  | relayed r =>
    have hended : r.cause ≠ none := by
      intro hrun
      change r.cause.isNone = false at h
      rw [hrun] at h
      cases h
    rw [(step_relayed r e).1]
    cases e.noticed? with
    | none => rfl
    | some event =>
      show Connection.relayed (r.step event).1 = .relayed r
      rw [Relay.step_ended hended]

namespace Forwarder

/-- A listener that is shut down and looks after no connection does not change. -/
theorem step_idle {f : Forwarder} (hclosed : f.accepting = false) (h : f.handlers = 0)
    (e : ForwarderEvent) : (f.step e).1 = f := by
  have hidle : ∀ c ∈ f.connections, c.isHandled = false := by
    intro c hc
    exact Bool.eq_false_iff.mpr (List.countP_eq_zero.mp h c hc)
  cases e with
  | accept dial => rw [step_accept_closed hclosed]
  | acceptFault fault => rfl
  | connection i e =>
    show (f.stepOne i e).1 = f
    rcases stepOne_cases f i e with ⟨-, hstep⟩ | ⟨c, -, hget, hstep⟩
    · rw [hstep]
    · obtain ⟨hbound, hc⟩ := List.getElem?_eq_some_iff.mp hget
      rw [hstep, Connection.step_idle (hidle c (List.mem_of_getElem? hget)), ← hc,
        List.set_getElem_self]
  | advance span =>
    show { f with connections := (stepAll (.advance span) 0 f.connections).1 } = f
    have hsame : f.connections.map (fun c => (c.step (.advance span)).1) = f.connections := by
      conv_rhs => rw [← List.map_id f.connections]
      exact List.map_congr_left fun c hc => Connection.step_idle (hidle c hc) _
    rw [stepAll_connections, hsame]
  | shutdown => rw [step_shutdown_closed hclosed]

theorem inFlight_eq_zero {f : Forwarder} :
    f.inFlight = 0 ↔ ∀ (c : Nat) (r : Relay), f.connections[c]? = some (.relayed r) →
      r.cause ≠ none := by
  rw [inFlight, List.countP_eq_zero]
  constructor
  · intro h c r hget hrun
    refine h _ (List.mem_of_getElem? hget) ?_
    show r.cause.isNone = true
    rw [hrun]
    rfl
  · intro h c hc hopen
    obtain ⟨i, hi⟩ := List.mem_iff_getElem?.mp hc
    cases c with
    | relayed r => exact h i r hi (Option.isNone_iff_eq_none.mp hopen)
    | _ => cases hopen

/-- A listener that has been shut down: it accepts nothing, and what it looks after is what it
relays. -/
theorem run_closed {f : Forwarder} (hopen : f.accepting = true) (seen : List ForwarderEvent) :
    (f.run (.shutdown :: seen)).1.accepting = false ∧
      ∀ (c : Nat) (waiting : Relay),
        (f.run (.shutdown :: seen)).1.connections[c]? ≠ some (.connecting waiting) := by
  have hclosed : (f.run (.shutdown :: seen)).1.accepting = false := by
    rw [← Bool.not_eq_true, run_accepting]
    exact fun h => h.2 List.mem_cons_self
  refine ⟨hclosed, ?_⟩
  -- a connection was accepted before the shutdown, which has decided what becomes of it
  intro c waiting hget
  have hbound : c < f.connections.length := by
    rw [← length_stopped hopen seen]
    exact (List.getElem?_eq_some_iff.mp hget).1
  have hholds := (run_stopped hopen (List.getElem?_eq_getElem hbound) seen).1
  exact hholds.decided hclosed waiting (Option.some.inj (hholds.get.symm.trans hget))

end Forwarder

namespace ListenerProcess

/-- Nothing is in flight exactly where every relay of every listener has ended. -/
theorem inFlight_eq_zero {p : ListenerProcess} :
    p.inFlight = 0 ↔ ∀ (l c : Nat) (r : Relay), p.connection? l c = some (.relayed r) →
      r.cause ≠ none := by
  have hsum (fs : List Forwarder) :
      fs.foldr (fun f n => f.inFlight + n) 0 = 0 ↔ ∀ f ∈ fs, f.inFlight = 0 := by
    induction fs with
    | nil => simp
    | cons f rest ih => simp [ih]
  rw [inFlight, hsum]
  constructor
  · intro h l c r hget
    obtain ⟨f, hf, hc⟩ := Option.bind_eq_some_iff.mp hget
    exact Forwarder.inFlight_eq_zero.mp (h f (List.mem_of_getElem? hf)) c r hc
  · intro h f hf
    obtain ⟨l, hl⟩ := List.mem_iff_getElem?.mp hf
    refine Forwarder.inFlight_eq_zero.mpr fun c r hc => h l c r ?_
    exact Option.bind_eq_some_iff.mpr ⟨f, hl, hc⟩

/-! ### Nothing but lookups is left -/

/-- A process that has nothing else to do is there as long as a lookup is under way. -/
structure HasLeft (p : ListenerProcess) : Prop where
  phase : p.phase = if p.lookups.isEmpty then .ended else .leaving

variable {p q : ListenerProcess}

theorem leave_hasLeft (p : ListenerProcess) : p.leave.HasLeft := ⟨rfl⟩

/-- Nothing but the end of a lookup matters to a process that has left. -/
theorem HasLeft.step (h : p.HasLeft) (e : ListenerEvent) :
    (p.step e).1.HasLeft ∧ (p.step e).1.forwarders = p.forwarders ∧
      ∀ l c, (l, c) ∈ (p.step e).1.lookups ↔ (l, c) ∈ p.lookups ∧ e ≠ .lookedUp l c := by
  cases hempty : p.lookups.isEmpty with
  | true =>
    have hphase : p.phase = .ended := by rw [h.phase, hempty, if_pos rfl]
    rw [step_ended hphase]
    refine ⟨h, rfl, fun l c => ?_⟩
    simp [List.isEmpty_iff.mp hempty]
  | false =>
    have hphase : p.phase = .leaving := by simp [h.phase, hempty]
    unfold ListenerProcess.step
    rw [hphase]
    cases e with
    | lookedUp i connection =>
      refine ⟨leave_hasLeft _, rfl, fun l c => ?_⟩
      show (l, c) ∈ p.lookupsAfter (.lookedUp i connection) ↔ _
      rw [mem_lookupsAfter]
      simp [lookupBegun?, lookupEnded?]
    | _ => exact ⟨h, rfl, fun l c => (and_iff_left ListenerEvent.noConfusion).symm⟩

theorem HasLeft.after (h : p.HasLeft) (script : List ListenerEvent) :
    (p.after script).HasLeft ∧
      ∀ l c, (l, c) ∈ (p.after script).lookups ↔ (l, c) ∈ p.lookups ∧ .lookedUp l c ∉ script := by
  induction script generalizing p with
  | nil => exact ⟨h, fun l c => (and_iff_left List.not_mem_nil).symm⟩
  | cons e es ih =>
    obtain ⟨hstep, -, hlookups⟩ := h.step e
    obtain ⟨hafter, hrest⟩ := ih hstep
    refine ⟨hafter, fun l c => ?_⟩
    rw [after_cons, hrest, hlookups, List.mem_cons, not_or, and_assoc, ne_comm]

/-- A process that has left exits with code 0 as soon as no lookup is under way. -/
theorem HasLeft.exit? (h : p.HasLeft) :
    (p.exit? = none ↔ ∃ l c, (l, c) ∈ p.lookups) ∧
      (p.exit? = some ⟨0, ""⟩ ↔ ∀ l c, (l, c) ∉ p.lookups) := by
  unfold ListenerProcess.exit?
  rw [h.phase]
  cases hlookups : p.lookups with
  | nil => simp [ProgramExit.success]
  | cons place rest =>
    obtain ⟨l, c⟩ := place
    refine ⟨iff_of_true rfl ⟨l, c, List.mem_cons_self⟩, iff_of_false nofun fun hnone => ?_⟩
    exact hnone l c List.mem_cons_self

/-! ### After the first interrupt -/

/-- `Drains p after q`: the process `p` served and was interrupted, and then the events `after`
happened, none of which was an interrupt. -/
structure Drains (p : ListenerProcess) (after : List ListenerEvent) (q : ListenerProcess) :
    Prop where
  /-- Each listener is shut down, and then sees what concerns it. -/
  forwarders : ∀ l : Nat, q.forwarders[l]?
    = p.forwarders[l]?.map fun f => (f.run (.shutdown :: after.filterMap (·.at? l))).1
  /-- The lookups that are under way are those that were and have not come back. -/
  lookups : ∀ l c, (l, c) ∈ q.lookups ↔ (l, c) ∈ p.lookups ∧ .lookedUp l c ∉ after
  /-- The process waits as long as something is relayed. -/
  waits : q.inFlight ≠ 0 → q.phase = .draining
  /-- Then it has left. -/
  left : q.inFlight = 0 → q.HasLeft

/-- The first interrupt. -/
theorem interrupted_drains {p : ListenerProcess} (h : p.phase = .serving) :
    p.Drains [] (p.step .interrupt).1 := by
  have hstep : p.step .interrupt = p.interrupted := by
    unfold step
    rw [h]
  rw [hstep]
  have hforwarders := p.interrupted_forwarders
  unfold interrupted at hforwarders ⊢
  dsimp only at hforwarders ⊢
  split at hforwarders
  · rename_i hidle
    rw [if_pos hidle]
    exact ⟨hforwarders, fun l c => (and_iff_left List.not_mem_nil).symm,
      fun hflight => absurd hidle hflight, fun _ => leave_hasLeft _⟩
  · rename_i hflight
    rw [if_neg hflight]
    exact ⟨hforwarders, fun l c => (and_iff_left List.not_mem_nil).symm, fun _ => rfl,
      fun hidle => absurd hidle hflight⟩

variable {after : List ListenerEvent}

/-- A listener of a process that drains accepts nothing and waits for no dial. -/
theorem Drains.closed (h : p.Drains after q) (hp : p.Serves) {l : Nat} {g : Forwarder}
    (hget : q.forwarders[l]? = some g) :
    g.accepting = false ∧
      ∀ (c : Nat) (waiting : Relay), g.connections[c]? ≠ some (.connecting waiting) := by
  rw [h.forwarders l] at hget
  obtain ⟨f, hf, rfl⟩ := Option.map_eq_some_iff.mp hget
  exact Forwarder.run_closed (hp.accepting l f hf) _

/-- Where nothing is in flight, nothing that happens to a listener changes it. -/
theorem Drains.idle (h : p.Drains after q) (hp : p.Serves) (hidle : q.inFlight = 0) {l : Nat}
    {g : Forwarder} (hget : q.forwarders[l]? = some g) (e : ForwarderEvent) :
    (g.step e).1 = g := by
  have hnone : g.inFlight = 0 := by
    refine Forwarder.inFlight_eq_zero.mpr fun c r hc => ?_
    exact inFlight_eq_zero.mp hidle l c r (Option.bind_eq_some_iff.mpr ⟨g, hget, hc⟩)
  have hhandlers : g.handlers = g.inFlight := by
    rw [h.forwarders l] at hget
    obtain ⟨f, hf, rfl⟩ := Option.map_eq_some_iff.mp hget
    exact Forwarder.handlers_stopped (hp.accepting l f hf) _
  exact Forwarder.step_idle (h.closed hp hget).1 (hhandlers.trans hnone) e

/-- While a process drains no lookup begins, and none is over but by itself. -/
theorem Drains.lookupsAfter (h : p.Drains after q) (hp : p.Serves) (e : ListenerEvent) (l c : Nat) :
    (l, c) ∈ q.lookupsAfter e ↔ (l, c) ∈ q.lookups ∧ e ≠ .lookedUp l c := by
  rw [mem_lookupsAfter, Ne, lookupEnded?_eq_some, lookupBegun?_eq_some]
  constructor
  · rintro (⟨-, f, hf, hopen, -, -⟩ | ⟨hout, hended⟩)
    · cases (h.closed hp hf).1.symm.trans hopen
    · exact ⟨hout, fun hover => hended (.inl hover)⟩
  · rintro ⟨hout, hover⟩
    refine .inr ⟨hout, ?_⟩
    rintro (hback | ⟨-, -, f, -, hwaits, -⟩)
    · exact hover hback
    · obtain ⟨hf, waiting, hwaiting⟩ := q.connecting?_eq_some.mp hwaits
      exact (h.closed hp hf).2 c waiting hwaiting

/-- What a process that drains goes on with. -/
theorem Drains.step (h : p.Drains after q) (hp : p.Serves) {e : ListenerEvent}
    (he : e ≠ .interrupt) : p.Drains (after ++ [e]) (q.step e).1 := by
  have hnext (l : Nat) :
      (p.forwarders[l]?.map fun f =>
        (f.run (.shutdown :: (after ++ [e]).filterMap (·.at? l))).1)
        = q.forwarders[l]?.map fun g => (g.run (e.at? l).toList).1 := by
    rw [h.forwarders l, Option.map_map]
    congr 1
    funext f
    show _ = ((f.run (.shutdown :: after.filterMap (·.at? l))).1.run (e.at? l).toList).1
    rw [List.filterMap_append, ← List.cons_append, Forwarder.run_append]
    cases hseen : e.at? l <;> simp [hseen]
  have hlookups (l c : Nat) :
      ((l, c) ∈ p.lookups ∧ .lookedUp l c ∉ after ++ [e]) ↔
        (l, c) ∈ q.lookups ∧ e ≠ .lookedUp l c := by
    rw [h.lookups, List.mem_append, List.mem_singleton, not_or, and_assoc, ne_comm]
  by_cases hidle : q.inFlight = 0
  · -- the process has left, and nothing that its listeners would have seen matters
    obtain ⟨hleft, hforwarders, hout⟩ := (h.left hidle).step e
    have hstill : (q.step e).1.inFlight = 0 := by
      unfold ListenerProcess.inFlight
      rw [hforwarders]
      exact hidle
    refine ⟨?_, fun l c => (hout l c).trans (hlookups l c).symm,
      fun hflight => absurd hstill hflight, fun _ => hleft⟩
    intro l
    rw [hforwarders, hnext l]
    cases hget : q.forwarders[l]? with
    | none => rfl
    | some g =>
      cases e.at? l with
      | none => rfl
      | some event =>
        show some g = some (g.step event).1
        rw [h.idle hp hidle hget]
  · have hphase : q.phase = .draining := h.waits hidle
    have hcarried : (q.carry e).1.phase = .draining := (q.carry_settings e).2.trans hphase
    rw [step_draining hphase he]
    obtain ⟨hforwarders, -, hsame⟩ := settle_settings (q.carry e)
    have hflight : (settle (q.carry e)).1.inFlight = (q.carry e).1.inFlight := by
      unfold ListenerProcess.inFlight
      rw [hforwarders]
    refine ⟨?_, ?_, ?_, ?_⟩
    · intro l
      rw [hforwarders, q.carry_forwarders he l, hnext l]
      cases hget : q.forwarders[l]? with
      | none => rfl
      | some g =>
        rw [Option.map_some, ListenerEvent.seenBy_closed he q.dialer l (h.closed hp hget).2]
        rfl
    · intro l c
      rw [hsame, hlookups]
      exact h.lookupsAfter hp e l c
    · intro hopen
      rw [hflight] at hopen
      rw [settle_eq, if_neg fun hdone => hopen hdone.2, hcarried]
    · intro hdone
      rw [hflight] at hdone
      rw [settle_eq, if_pos ⟨hcarried, hdone⟩]
      exact leave_hasLeft _

/-- A process that is interrupted once: what becomes of its listeners and its lookups, and that it
is there as long as something is relayed. -/
theorem after_interrupt (hp : p.Serves) (hafter : .interrupt ∉ after) :
    p.Drains after (p.after (.interrupt :: after)) := by
  -- on what has happened since the interrupt; its last event is the last step
  induction after using List.reverseRecOn with
  | nil => exact interrupted_drains hp.phase
  | append_singleton es e ih =>
    rw [List.mem_append, not_or, List.mem_singleton] at hafter
    rw [← List.cons_append, after_snoc]
    exact (ih hafter.1).step hp (Ne.symm hafter.2)

/-- A process that drains leaves with the next interrupt, if it has not left before. -/
theorem Drains.interrupted (h : p.Drains after q) :
    (q.step .interrupt).1.HasLeft ∧
      ∀ l c, (l, c) ∈ (q.step .interrupt).1.lookups ↔ (l, c) ∈ q.lookups := by
  by_cases hidle : q.inFlight = 0
  · obtain ⟨hleft, -, hlookups⟩ := (h.left hidle).step .interrupt
    exact ⟨hleft, fun l c => (hlookups l c).trans (and_iff_left ListenerEvent.noConfusion)⟩
  · rw [step_interrupt_draining (h.waits hidle)]
    exact ⟨leave_hasLeft q, fun l c => Iff.rfl⟩

/-- The process is there as long as something is in flight or a lookup is under way. -/
theorem Drains.exit? (h : p.Drains after q) :
    (q.exit? = none ↔ q.inFlight ≠ 0 ∨ ∃ l c, (l, c) ∈ q.lookups) ∧
      (q.exit? = some ⟨0, ""⟩ ↔ q.inFlight = 0 ∧ ∀ l c, (l, c) ∉ q.lookups) := by
  by_cases hidle : q.inFlight = 0
  · simp only [hidle, ne_eq, not_true, false_or, true_and]
    exact (h.left hidle).exit?
  · simp only [hidle, ne_eq, not_false_iff, true_or, false_and]
    unfold ListenerProcess.exit?
    rw [h.waits hidle]
    simp

/-- Each connection is told of the shutdown, and then of what concerns it. -/
theorem Drains.connections (h : p.Drains after q) (hp : p.Serves) (l c : Nat) :
    q.connection? l c = (p.connection? l c).map fun before =>
      (before.run (.shutdown :: (after.filterMap (·.at? l)).filterMap (·.at? c))).1 := by
  unfold connection?
  rw [h.forwarders l]
  cases hf : p.forwarders[l]? with
  | none => rfl
  | some f =>
    have hopen := hp.accepting l f hf
    show (f.run (.shutdown :: after.filterMap (·.at? l))).1.connections[c]?
      = f.connections[c]?.map _
    cases hc : f.connections[c]? with
    | none =>
      rw [List.getElem?_eq_none_iff] at hc
      rw [List.getElem?_eq_none (by rw [Forwarder.length_stopped hopen]; exact hc)]
      rfl
    | some before => exact (Forwarder.run_stopped hopen hc _).1.get

/-- A connection that waits for its WebSocket is given up. -/
theorem Drains.abandoned (h : p.Drains after q) (hp : p.Serves) {l c : Nat} {waiting : Relay}
    (hget : p.connection? l c = some (.connecting waiting)) :
    q.connection? l c = some .abandoned := by
  rw [h.connections hp, hget, Option.map_some, Forwarder.run_stopped_connecting]

/-- A relay goes on with what it notices. -/
theorem Drains.relayed (h : p.Drains after q) (hp : p.Serves) {l c : Nat} {r : Relay}
    (hget : p.connection? l c = some (.relayed r)) :
    q.connection? l c = some (.relayed (r.run (after.filterMap (·.noticed? l c))).1) := by
  rw [h.connections hp, hget, Option.map_some, Forwarder.run_stopped_relayed,
    ListenerEvent.noticedAt_at?]

/-- There is no relay that was not there at the interrupt. -/
theorem Drains.relayed_before (h : p.Drains after q) (hp : p.Serves) {l c : Nat} {s : Relay}
    (hget : q.connection? l c = some (.relayed s)) :
    ∃ r, p.connection? l c = some (.relayed r) := by
  rw [h.connections hp] at hget
  obtain ⟨before, hbefore, hrun⟩ := Option.map_eq_some_iff.mp hget
  cases before with
  | relayed r => exact ⟨r, hbefore⟩
  | connecting waiting =>
    rw [Forwarder.run_stopped_connecting] at hrun
    cases hrun
  | failed cause =>
    rw [Connection.run_failed] at hrun
    cases hrun
  | abandoned =>
    rw [Connection.run_abandoned] at hrun
    cases hrun

/-- Nothing is in flight any more exactly where every relay that was there at the interrupt has
ended. -/
theorem Drains.inFlight_eq_zero (h : p.Drains after q) (hp : p.Serves) :
    q.inFlight = 0 ↔ ∀ (l c : Nat) (r : Relay), p.connection? l c = some (.relayed r) →
      (r.run (after.filterMap (·.noticed? l c))).1.cause ≠ none := by
  rw [ListenerProcess.inFlight_eq_zero]
  constructor
  · intro hall l c r hget
    exact hall l c _ (h.relayed hp hget)
  · intro hall l c s hget
    -- nothing is accepted while the process drains, so that the relay is one of those
    obtain ⟨r, hr⟩ := h.relayed_before hp hget
    have hsame := (h.relayed hp hr).symm.trans hget
    cases hsame
    exact hall l c r hr

end ListenerProcess

namespace Program

variable {dialer : Dialer} {s : Surroundings} {p : ListenerProcess}

/-- The relays of a program that listens are those of its process. -/
theorem relay?_listening (p : ListenerProcess) (l c : Nat) (r : Relay) :
    (Program.listening p).relay? l c = some r ↔ p.connection? l c = some (.relayed r) := by
  unfold relay? ListenerProcess.connection?
  dsimp only
  cases p.forwarders[l]?.bind (·.connections[c]?) with
  | none => simp
  | some connection => cases connection <;> simp

theorem start_serves (h : (start dialer s).1 = .listening p) : p.Serves := by
  obtain ⟨-, hphase, hbegun, -⟩ := start_listening h
  exact ⟨hphase, fun l f hf => (hbegun f (List.mem_of_getElem? hf)).accepting⟩

/-- Of the lookups of a program that is not interrupted, each is for a connection of a listener
which dials a name, and this connection is not relayed; and there is one for each connection of such
a listener that waits for its WebSocket, unless the lookup has come back. -/
theorem served_lookups (hstart : (start dialer s).1 = .listening p) {script : List ListenerEvent}
    (hscript : .interrupt ∉ script) (l c : Nat) :
    ((l, c) ∈ (p.after script).lookups → ∃ f connection,
      (p.after script).forwarders[l]? = some f ∧ f.options.looksUp = true ∧
        (p.after script).connection? l c = some connection ∧ ∀ r, connection ≠ .relayed r) ∧
    ∀ f waiting, (p.after script).forwarders[l]? = some f → f.options.looksUp = true →
      (p.after script).connection? l c = some (.connecting waiting) → .lookedUp l c ∉ script →
        (l, c) ∈ (p.after script).lookups := by
  have hserves := start_serves hstart
  obtain ⟨-, -, hbegun, hnone⟩ := start_listening hstart
  have hempty : p.Awaits := by
    intro l c hplace
    rw [hnone] at hplace
    cases hplace
  refine ⟨ListenerProcess.after_awaits hserves hempty hscript l c, ?_⟩
  intro f waiting hf hlooks hget hout
  exact ListenerProcess.looksUp_connecting hserves
    (fun l f hf => (hbegun f (List.mem_of_getElem? hf)).connections) hscript hf hlooks hget hout

/-- However many listeners and connections a program has, it does not exit before it is interrupted.
Then it gives up every connection that waits for its WebSocket, and waits as long as one of the
relays is under way that it has at the interrupt, on whichever listener; each of these goes on with
what happens on its own sides and with the clock. When the last of them ends, at once if there is
none, and at a second interrupt whatever is under way, it has left: it exits with code 0 as soon as
all of those lookups have come back that were under way at the interrupt, also for connections that
it has given up. -/
theorem listening_drains (hstart : (start dialer s).1 = .listening p)
    (before after : List ListenerEvent) (hbefore : .interrupt ∉ before)
    (hafter : .interrupt ∉ after) :
    let run (script : List ListenerEvent) := (start dialer s).1.after (script.map .listening)
    let served := run before
    let drained := run (before ++ .interrupt :: after)
    let rest (l c : Nat) (r : Relay) := (r.run (after.filterMap (·.noticed? l c))).1
    let lookups := (p.after before).lookups
    served.exit? = none ∧
    (∀ l c r, served.relay? l c = some r → drained.relay? l c = some (rest l c r)) ∧
    (∀ l c waiting, (p.after before).connection? l c = some (.connecting waiting) →
      (p.after (before ++ .interrupt :: after)).connection? l c = some .abandoned) ∧
    (∀ l c, (l, c) ∈ lookups → ∃ f, (p.after before).forwarders[l]? = some f ∧
      f.options.looksUp = true ∧ served.relay? l c = none) ∧
    (∀ l c f waiting, (p.after before).forwarders[l]? = some f → f.options.looksUp = true →
      (p.after before).connection? l c = some (.connecting waiting) → .lookedUp l c ∉ before →
        (l, c) ∈ lookups) ∧
    (drained.exit? = none ↔
      (∃ l c r, served.relay? l c = some r ∧ (rest l c r).cause = none) ∨
        ∃ l c, (l, c) ∈ lookups ∧ .lookedUp l c ∉ after) ∧
    (drained.exit? = some ⟨0, ""⟩ ↔
      (∀ l c r, served.relay? l c = some r → (rest l c r).cause ≠ none) ∧
        ∀ l c, (l, c) ∈ lookups → .lookedUp l c ∈ after) ∧
    ∀ more, let left := run (before ++ .interrupt :: after ++ .interrupt :: more)
      (left.exit? = none ↔ ∃ l c, (l, c) ∈ lookups ∧ .lookedUp l c ∉ after ++ more) ∧
        (left.exit? = some ⟨0, ""⟩ ↔
          ∀ l c, (l, c) ∈ lookups → .lookedUp l c ∈ after ++ more) := by
  intro run served drained rest lookups
  have hserves : (p.after before).Serves :=
    ListenerProcess.after_serves (start_serves hstart) hbefore
  have hdrains := ListenerProcess.after_interrupt hserves hafter
  have hrun (script : List ListenerEvent) : run script = .listening (p.after script) := by
    show (start dialer s).1.after (script.map .listening) = _
    rw [hstart, after_listening]
  have hserved : served = .listening (p.after before) := hrun before
  have hdrained : drained = .listening ((p.after before).after (.interrupt :: after)) := by
    rw [← p.after_append]
    exact hrun _
  have hidle : ((p.after before).after (.interrupt :: after)).inFlight = 0 ↔
      ∀ l c r, served.relay? l c = some r → (rest l c r).cause ≠ none := by
    rw [hdrains.inFlight_eq_zero hserves]
    simp only [hserved, relay?_listening]
    rfl
  have hopen : ((p.after before).after (.interrupt :: after)).inFlight ≠ 0 ↔
      ∃ l c r, served.relay? l c = some r ∧ (rest l c r).cause = none := by
    rw [Ne, hidle]
    simp only [ne_eq, not_forall, not_not, exists_prop]
  have hexit := hdrains.exit?
  simp only [hdrains.lookups, not_and, not_not] at hexit
  refine ⟨?_, ?_, ?_, ?_, ?_, ?_, ?_, ?_⟩
  · rw [hserved]
    show (p.after before).exit? = none
    unfold ListenerProcess.exit?
    rw [hserves.phase]
  · intro l c r hget
    rw [hserved, relay?_listening] at hget
    rw [hdrained, relay?_listening]
    exact hdrains.relayed hserves hget
  · intro l c waiting hget
    rw [p.after_append]
    exact hdrains.abandoned hserves hget
  · intro l c hplace
    obtain ⟨f, connection, hf, hlooks, hget, hnot⟩ := (served_lookups hstart hbefore l c).1 hplace
    refine ⟨f, hf, hlooks, ?_⟩
    rw [Option.eq_none_iff_forall_ne_some]
    intro r hrelay
    rw [hserved, relay?_listening] at hrelay
    exact hnot r (Option.some.inj (hget.symm.trans hrelay))
  · exact fun l c f waiting => (served_lookups hstart hbefore l c).2 f waiting
  · rw [hdrained, ← hopen]
    exact hexit.1
  · rw [hdrained, ← hidle]
    exact hexit.2
  · intro more left
    have hleft : left = .listening ((((p.after before).after (.interrupt :: after)).step
        .interrupt).1.after more) := by
      show run _ = _
      rw [hrun, p.after_append, ListenerProcess.after_cons, p.after_append]
    obtain ⟨hgone, hsame⟩ := hdrains.interrupted
    obtain ⟨hlast, hlookups⟩ := hgone.after more
    have hend := hlast.exit?
    simp only [hlookups, hsame, hdrains.lookups, not_and, not_not, and_assoc, ← not_or,
      ← List.mem_append] at hend
    rw [hleft]
    exact hend

/-- A run with one listener. -/
def listenerRun : Surroundings where
  arguments := ["ssh", "--hostname", "http://origin.example", "--url", "127.0.0.1:2222"]
  environment := fun _ => none
  files := fun _ => .error .invalidPort
  system := System.free

/-- A connection whose dial succeeds, and one whose dial is pending. -/
def listenerScript : List ListenerEvent :=
  [.connect 0, .dial 0 0 sampleKey (sampleOrigin []), .connect 0]

/-- A connection is relayed, and the lookup for the other is under way. It keeps the program there
when the relay has ended, and the program exits when it has come back; with two interrupts it is the
same. -/
theorem listening_drains_first :
    ∃ p, (start {} listenerRun).1 = .listening p ∧ .interrupt ∉ listenerScript ∧
      let run (script : List ListenerEvent) :=
        (start {} listenerRun).1.after (script.map .listening)
      (run (listenerScript ++ [.interrupt, .lookedUp 0 1])).exit? = none ∧
      (run (listenerScript ++ [.interrupt, .lookedUp 0 1, .relay 0 0 (.localEnd .eof)])).exit?
        = some ⟨0, ""⟩ ∧
      (run (listenerScript ++ [.interrupt, .interrupt, .lookedUp 0 1])).exit? = some ⟨0, ""⟩ := by
  have hbefore : .interrupt ∉ listenerScript := by simp [listenerScript]
  obtain ⟨p, hstart, hlookups⟩ : ∃ p, (start {} listenerRun).1 = .listening p ∧
      (p.after listenerScript).lookups = [(0, 1)] := ⟨_, rfl, by decide +kernel⟩
  refine ⟨p, hstart, hbefore, ?_⟩
  have hwaits := listening_drains hstart listenerScript [.lookedUp 0 1] hbefore (by simp)
  have hleaves := listening_drains hstart listenerScript [] hbefore List.not_mem_nil
  obtain ⟨-, -, -, -, -, hopen, -, -⟩ := hwaits
  obtain ⟨-, -, -, -, -, -, -, hagain⟩ := hleaves
  refine ⟨hopen.mpr (.inl ⟨0, 0, { limits := ⟨16 * 1024 * 1024, 16 * 1024 * 1024⟩ }, ?_, rfl⟩), ?_,
    (hagain [.lookedUp 0 1]).2.mpr ?_⟩
  · decide +kernel
  · decide +kernel
  · simp [hlookups]

/-- A connection is relayed, and the name of the host is being looked up for another one. The
program is there when it is interrupted and the relay has ended, when it is interrupted twice, and
when there is no relay. -/
theorem listening_stays :
    let run (script : List ListenerEvent) := (start {} listenerRun).1.after (script.map .listening)
    let relay : Relay := { limits := ⟨16 * 1024 * 1024, 16 * 1024 * 1024⟩ }
    (run listenerScript).relay? 0 0 = some relay ∧ relay.cause = none ∧
    (relay.run [.localEnd .eof]).1.cause = some .localEof ∧
    (run (listenerScript ++ [.interrupt, .relay 0 0 (.localEnd .eof)])).exit? = none ∧
    (run (listenerScript ++ [.interrupt, .interrupt])).exit? = none ∧
    (run [.connect 0, .interrupt]).exit? = none := by
  decide +kernel

end Program

end Carrier
