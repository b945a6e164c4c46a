import Carrier.Proofs.Forwarder.Projection
import Carrier.Proofs.Program.Script

/-!
# One listener of a process

What a process does to one of its listeners is what happens to this listener alone.

- `ListenerEvent.seenBy`, `ListenerEvent.Sees`: what an event of a process is for one of its
  listeners.
- `ListenerProcess.carry_forwarders`, `ListenerProcess.interrupted_forwarders`: one event, seen from
  one listener.
- `ListenerProcess.step_serving`, `ListenerProcess.step_draining`: one event, by the phase.
- `ListenerProcess.step_forwarders`: one event, whatever the phase.
-/

namespace Carrier

/-- What an event of a process is for one of its listeners. The end of a dial matters only to a
connection that waits for it, and what came with the answer is there before the relay begins. -/
def ListenerEvent.seenBy (dialer : Dialer) (listener : Nat) (f : Forwarder) :
    ListenerEvent → List ForwarderEvent
  | .connect l => if l = listener then [.accept .pending] else []
  | .acceptFault l fault => if l = listener then [.acceptFault fault] else []
  | .dial l connection key origin =>
    if l = listener then
      match f.connections[connection]? with
      | some (.connecting _) =>
        match dialer.dial f.options key origin with
        | .error cause => [.connection connection (.dialFailed cause)]
        | .ok established =>
          [.connection connection (.relay (.remoteBytes established.early)),
            .connection connection .established]
      | _ => []
    else []
  | .relay l connection event =>
    if l = listener then [.connection connection (.relay event)] else []
  | .advance span => [.advance span]
  | .lookedUp .. => []
  | .interrupt => [.shutdown]

/-- `e.Sees dialer listener f seen`: an event of a process is, or is among others, an event of one
of its listeners. -/
inductive ListenerEvent.Sees (dialer : Dialer) (listener : Nat) (f : Forwarder) :
    ListenerEvent → ForwarderEvent → Prop where
  | accept : Sees dialer listener f (.connect listener) (.accept .pending)
  | acceptFault (fault : IoFault) :
    Sees dialer listener f (.acceptFault listener fault) (.acceptFault fault)
  | dialFailed {connection : Nat} {key : HeaderValue} {origin : Origin} {waiting : Relay}
    {cause : DialError} (waits : f.connections[connection]? = some (.connecting waiting))
    (dial : dialer.dial f.options key origin = .error cause) :
    Sees dialer listener f (.dial listener connection key origin)
      (.connection connection (.dialFailed cause))
  | early {connection : Nat} {key : HeaderValue} {origin : Origin} {waiting : Relay}
    {established : Established} (waits : f.connections[connection]? = some (.connecting waiting))
    (dial : dialer.dial f.options key origin = .ok established) :
    Sees dialer listener f (.dial listener connection key origin)
      (.connection connection (.relay (.remoteBytes established.early)))
  | established {connection : Nat} {key : HeaderValue} {origin : Origin} {waiting : Relay}
    {established : Established} (waits : f.connections[connection]? = some (.connecting waiting))
    (dial : dialer.dial f.options key origin = .ok established) :
    Sees dialer listener f (.dial listener connection key origin)
      (.connection connection .established)
  | relay (connection : Nat) (event : Event) :
    Sees dialer listener f (.relay listener connection event)
      (.connection connection (.relay event))
  | advance (span : Duration) : Sees dialer listener f (.advance span) (.advance span)
  | shutdown : Sees dialer listener f .interrupt .shutdown

theorem ListenerEvent.sees_of_mem {e : ListenerEvent} {dialer : Dialer} {listener : Nat}
    {f : Forwarder} {seen : ForwarderEvent} (h : seen ∈ e.seenBy dialer listener f) :
    e.Sees dialer listener f seen := by
  unfold seenBy at h
  cases e with
  | connect l =>
    obtain ⟨rfl, rfl⟩ : l = listener ∧ seen = _ := by simpa using h
    exact .accept
  | acceptFault l fault =>
    obtain ⟨rfl, rfl⟩ : l = listener ∧ seen = _ := by simpa using h
    exact .acceptFault fault
  | relay l connection event =>
    obtain ⟨rfl, rfl⟩ : l = listener ∧ seen = _ := by simpa using h
    exact .relay connection event
  | dial l connection key origin =>
    dsimp only at h
    split at h
    · rename_i hl
      subst hl
      split at h
      · rename_i waiting hwaits
        cases hdial : dialer.dial f.options key origin with
        | error cause =>
          rw [hdial] at h
          rw [List.mem_singleton.mp h]
          exact .dialFailed hwaits hdial
        | ok answer =>
          rw [hdial] at h
          simp only [List.mem_cons, List.not_mem_nil, or_false] at h
          rcases h with rfl | rfl
          · exact .early hwaits hdial
          · exact .established hwaits hdial
      · cases h
    · cases h
  | advance span =>
    rw [List.mem_singleton.mp h]
    exact .advance span
  | lookedUp l connection => cases h
  | interrupt =>
    rw [List.mem_singleton.mp h]
    exact .shutdown

namespace Forwarder

theorem run_nil (f : Forwarder) : (f.run []).1 = f := rfl

end Forwarder

namespace ListenerProcess

variable (p : ListenerProcess)

/-- The connection with an index of the listener with an index. -/
def connection? (p : ListenerProcess) (listener connection : Nat) : Option Connection :=
  p.forwarders[listener]?.bind (·.connections[connection]?)

/-! ### What does not change -/

theorem stepOne_settings (p : ListenerProcess) (listener : Nat) (e : ForwarderEvent) :
    (p.stepOne listener e).1.dialer = p.dialer ∧ (p.stepOne listener e).1.phase = p.phase := by
  unfold stepOne
  split <;> exact ⟨rfl, rfl⟩

theorem dialed_settings (listener connection : Nat) (key : HeaderValue) (origin : Origin) :
    (p.dialed listener connection key origin).1.dialer = p.dialer ∧
      (p.dialed listener connection key origin).1.phase = p.phase := by
  unfold dialed
  split
  · exact ⟨rfl, rfl⟩
  · split
    · exact p.stepOne_settings _ _
    · -- what came with the answer is there before the relay begins
      obtain ⟨hdialer, hphase⟩ := stepOne_settings (stepOne _ _ _).1 _ _
      obtain ⟨hdialer', hphase'⟩ := p.stepOne_settings _ _
      exact ⟨hdialer.trans hdialer', hphase.trans hphase'⟩

theorem attend_settings (p : ListenerProcess) (e : ListenerEvent) :
    (p.attend e).1.dialer = p.dialer ∧ (p.attend e).1.phase = p.phase := by
  cases e with
  | connect listener => exact p.stepOne_settings _ _
  | acceptFault listener fault => exact p.stepOne_settings _ _
  | dial listener connection key origin => exact p.dialed_settings _ _ _ _
  | relay listener connection event => exact p.stepOne_settings _ _
  | lookedUp listener connection => exact ⟨rfl, rfl⟩
  | advance span => exact ⟨rfl, rfl⟩
  | interrupt => exact ⟨rfl, rfl⟩

/-- An event that is carried changes neither how a process dials nor whether it is there. -/
theorem carry_settings (p : ListenerProcess) (e : ListenerEvent) :
    (p.carry e).1.dialer = p.dialer ∧ (p.carry e).1.phase = p.phase :=
  p.attend_settings e

/-! ### The listener with an index -/

theorem stepAll_forwarders (e : ForwarderEvent) (index : Nat) (fs : List Forwarder) :
    (stepAll e index fs).1 = fs.map fun f => (f.step e).1 := by
  induction fs generalizing index with
  | nil => rfl
  | cons f rest ih => exact congrArg ((f.step e).1 :: ·) (ih (index + 1))

theorem stepOne_forwarders (i listener : Nat) (e : ForwarderEvent) :
    (p.stepOne i e).1.forwarders[listener]?
      = p.forwarders[listener]?.map fun f => (f.run (if i = listener then [e] else [])).1 := by
  unfold stepOne
  cases hget : p.forwarders[i]? with
  | none =>
    by_cases hi : i = listener
    · rw [← hi, hget]
      rfl
    · simp only [if_neg hi, Forwarder.run_nil, Option.map_id']
  | some f =>
    show (p.forwarders.set i (f.step e).1)[listener]? = _
    have hbound : i < p.forwarders.length := (List.getElem?_eq_some_iff.mp hget).1
    by_cases hi : i = listener
    · rw [← hi, List.getElem?_set_self hbound, hget, if_pos rfl]
      rfl
    · rw [List.getElem?_set_ne hi]
      simp only [if_neg hi, Forwarder.run_nil, Option.map_id']

/-- What waits for a dial is a connection of a listener. -/
theorem connecting?_eq_some {listener connection : Nat} {f : Forwarder} :
    p.connecting? listener connection = some f ↔ p.forwarders[listener]? = some f ∧
      ∃ waiting, f.connections[connection]? = some (.connecting waiting) := by
  unfold connecting?
  constructor
  · intro h
    split at h
    · rename_i g hg
      split at h
      · rename_i waiting hwaiting
        cases h
        exact ⟨hg, waiting, hwaiting⟩
      · cases h
    · cases h
  · rintro ⟨hf, waiting, hwaiting⟩
    simp only [hf, hwaiting]

/-- The end of a dial is seen by the listener of a connection that waits for it. -/
theorem dialed_forwarders (listener i connection : Nat) (key : HeaderValue) (origin : Origin) :
    (p.dialed i connection key origin).1.forwarders[listener]?
      = p.forwarders[listener]?.map fun f =>
          (f.run ((ListenerEvent.dial i connection key origin).seenBy p.dialer listener f)).1 := by
  unfold dialed
  cases hwaits : p.connecting? i connection with
  | none =>
    -- nothing waits for this dial, whichever listener is looked at
    show p.forwarders[listener]? = _
    cases hget : p.forwarders[listener]? with
    | none => rfl
    | some f =>
      have hseen :
          (ListenerEvent.dial i connection key origin).seenBy p.dialer listener f = [] := by
        by_cases hi : i = listener
        · subst hi
          show (if i = i then _ else []) = []
          rw [if_pos rfl]
          split
          · rename_i waiting hwaiting
            have := p.connecting?_eq_some.mpr ⟨hget, waiting, hwaiting⟩
            cases hwaits.symm.trans this
          · rfl
        · exact if_neg hi
      rw [Option.map_some, hseen, Forwarder.run_nil]
  | some g =>
    obtain ⟨hg, waiting, hwaiting⟩ := p.connecting?_eq_some.mp hwaits
    by_cases hi : i = listener
    · subst hi
      simp only [hg, Option.map_some, ListenerEvent.seenBy, hwaiting]
      cases p.dialer.dial g.options key origin with
      | error cause =>
        simp only [stepOne_forwarders, hg, Option.map_some]
      | ok established =>
        simp only [stepOne_forwarders, hg, Option.map_some]
        rfl
    · have hother (f : Forwarder) :
          (ListenerEvent.dial i connection key origin).seenBy p.dialer listener f = [] := if_neg hi
      simp only [hother, Forwarder.run_nil, Option.map_id']
      cases p.dialer.dial g.options key origin with
      | error cause =>
        simp only [stepOne_forwarders, if_neg hi, Forwarder.run_nil, Option.map_id']
      | ok established =>
        simp only [stepOne_forwarders, if_neg hi, Forwarder.run_nil, Option.map_id']

theorem attend_forwarders {e : ListenerEvent} (he : e ≠ .interrupt) (listener : Nat) :
    (p.attend e).1.forwarders[listener]?
      = p.forwarders[listener]?.map fun f => (f.run (e.seenBy p.dialer listener f)).1 := by
  cases e with
  | connect i => exact p.stepOne_forwarders i listener _
  | acceptFault i fault => exact p.stepOne_forwarders i listener _
  | dial i connection key origin => exact p.dialed_forwarders listener i connection key origin
  | relay i connection event => exact p.stepOne_forwarders i listener _
  | advance span =>
    show (stepAll (.advance span) 0 p.forwarders).1[listener]? = _
    rw [stepAll_forwarders, List.getElem?_map]
    rfl
  | lookedUp i connection =>
    show p.forwarders[listener]? = p.forwarders[listener]?.map fun f => f
    rw [Option.map_id']
  | interrupt => exact absurd rfl he

/-- An event is for a listener what it is for this listener alone. -/
theorem carry_forwarders {e : ListenerEvent} (he : e ≠ .interrupt) (listener : Nat) :
    (p.carry e).1.forwarders[listener]?
      = p.forwarders[listener]?.map fun f => (f.run (e.seenBy p.dialer listener f)).1 :=
  p.attend_forwarders he listener

/-- The first interrupt shuts every listener down. -/
theorem interrupted_forwarders (listener : Nat) :
    p.interrupted.1.forwarders[listener]?
      = p.forwarders[listener]?.map fun f => (f.step .shutdown).1 := by
  have hall : p.interrupted.1.forwarders = (stepAll .shutdown 0 p.forwarders).1 := by
    unfold interrupted
    dsimp only
    split <;> rfl
  rw [hall, stepAll_forwarders, List.getElem?_map]

/-! ### The process -/

/-- A process that waits for its connections leaves with the last of them; nothing else is
changed. -/
theorem settle_eq (step : ListenerProcess × ListenerOutput) :
    (settle step).1 =
      if step.1.phase = .draining ∧ step.1.inFlight = 0 then step.1.leave else step.1 := by
  unfold settle
  split <;> rfl

theorem settle_settings (step : ListenerProcess × ListenerOutput) :
    (settle step).1.forwarders = step.1.forwarders ∧ (settle step).1.dialer = step.1.dialer ∧
      (settle step).1.lookups = step.1.lookups := by
  rw [settle_eq]
  split <;> exact ⟨rfl, rfl, rfl⟩

/-- While a process serves, an event other than an interrupt leaves it serving. -/
theorem step_serving {p : ListenerProcess} (hphase : p.phase = .serving) {e : ListenerEvent}
    (he : e ≠ .interrupt) : (p.step e).1 = (p.carry e).1 := by
  have hstep : p.step e = settle (p.carry e) := by
    unfold step
    rw [hphase]
    cases e with
    | interrupt => exact absurd rfl he
    | _ => rfl
  have hserving : (p.carry e).1.phase = .serving := (p.carry_settings e).2.trans hphase
  rw [hstep]
  unfold settle
  -- only a process that drains is made to leave here
  rw [if_neg]
  rw [hserving]
  nofun

/-- While a process waits for its connections, an event other than an interrupt is carried, and the
process leaves where the last connection has ended. -/
theorem step_draining {p : ListenerProcess} (hphase : p.phase = .draining) {e : ListenerEvent}
    (he : e ≠ .interrupt) : p.step e = settle (p.carry e) := by
  unfold step
  rw [hphase]
  cases e with
  | interrupt => exact absurd rfl he
  | _ => rfl

theorem step_interrupt_draining {p : ListenerProcess} (hphase : p.phase = .draining) :
    (p.step .interrupt).1 = p.leave := by
  unfold step
  rw [hphase]

/-- A process that leaves notices nothing but the ends of lookups. -/
theorem step_leaving {p : ListenerProcess} (hphase : p.phase = .leaving) (e : ListenerEvent) :
    (p.step e).1.forwarders = p.forwarders ∧ (p.step e).1.dialer = p.dialer := by
  unfold step
  rw [hphase]
  cases e <;> exact ⟨rfl, rfl⟩

theorem step_ended {p : ListenerProcess} (hphase : p.phase = .ended) (e : ListenerEvent) :
    p.step e = (p, .none) := by
  unfold step
  rw [hphase]

/-- Whatever happens to a process, a listener sees what the event is for it, or nothing if the
process does no more. -/
theorem step_forwarders (p : ListenerProcess) (e : ListenerEvent) {listener : Nat} {f : Forwarder}
    (h : p.forwarders[listener]? = some f) :
    ∃ seen, (p.step e).1.forwarders[listener]? = some (f.run seen).1 ∧
      (seen = [] ∨ seen = e.seenBy p.dialer listener f) := by
  have hcarried (he : e ≠ .interrupt) :
      (p.carry e).1.forwarders[listener]? = some (f.run (e.seenBy p.dialer listener f)).1 := by
    rw [p.carry_forwarders he, h]
    rfl
  cases hphase : p.phase with
  | ended =>
    rw [step_ended hphase]
    exact ⟨[], h, .inl rfl⟩
  | leaving =>
    rw [(step_leaving hphase e).1]
    exact ⟨[], h, .inl rfl⟩
  | serving =>
    by_cases he : e = .interrupt
    · subst he
      refine ⟨[.shutdown], ?_, .inr rfl⟩
      unfold step
      rw [hphase]
      exact (p.interrupted_forwarders listener).trans (by rw [h]; rfl)
    · rw [step_serving hphase he]
      exact ⟨_, hcarried he, .inr rfl⟩
  | draining =>
    by_cases he : e = .interrupt
    · subst he
      refine ⟨[], ?_, .inl rfl⟩
      rw [step_interrupt_draining hphase]
      exact h
    · rw [step_draining hphase he, (settle_settings _).1]
      exact ⟨_, hcarried he, .inr rfl⟩

theorem step_dialer (p : ListenerProcess) (e : ListenerEvent) :
    (p.step e).1.dialer = p.dialer := by
  cases hphase : p.phase with
  | ended => rw [step_ended hphase]
  | leaving => exact (step_leaving hphase e).2
  | serving =>
    by_cases he : e = .interrupt
    · subst he
      unfold step interrupted
      rw [hphase]
      dsimp only
      split <;> rfl
    · rw [step_serving hphase he, (p.carry_settings e).1]
  | draining =>
    by_cases he : e = .interrupt
    · subst he
      rw [step_interrupt_draining hphase]
      rfl
    · rw [step_draining hphase he, (settle_settings _).2.1]
      exact (p.carry_settings e).1

end ListenerProcess

end Carrier
