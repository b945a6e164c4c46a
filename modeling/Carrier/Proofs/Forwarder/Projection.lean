import Carrier.Forwarder.Basic

/-!
# One connection of a forwarder

What a forwarder does to one of its connections is what happens to this connection alone.

- `ForwarderEvent.at?`: what an event of a forwarder is for one connection.
- `Forwarder.Holds`: the connection with an index.
- `Forwarder.step_projection`: one event, seen from one connection.
- `Forwarder.run_projection`: a whole script.
-/

namespace Carrier

/-- Whether an event may happen to one connection alone. -/
def ConnectionEvent.isSingle : ConnectionEvent → Bool
  | .shutdown | .advance _ => false
  | _ => true

/-- What an event of a forwarder is for the connection with an index. -/
def ForwarderEvent.at? (index : Nat) : ForwarderEvent → Option ConnectionEvent
  | .connection i e => if i = index ∧ e.isSingle then some e else none
  | .advance span => some (.advance span)
  | .shutdown => some .shutdown
  | _ => none

theorem filterMap_cons_toList {α β : Type} (f : α → Option β) (a : α) (l : List α) :
    (a :: l).filterMap f = (f a).toList ++ l.filterMap f := by
  rw [List.filterMap_cons]
  cases f a <;> rfl

/-! ### Traffic of one connection -/

namespace ForwarderOutput

@[simp] theorem sentBy_followedBy (o p : ForwarderOutput) (index : Nat) :
    (o.followedBy p).sentBy index = (o.sentBy index).followedBy (p.sentBy index) := by
  simp [sentBy, followedBy]

theorem sentBy_cons (i index : Nat) (t : Traffic) (rest : List (Nat × Traffic))
    (logs logs' : List LogRecord) :
    sentBy ⟨(i, t) :: rest, logs⟩ index
      = if i = index then t.followedBy (sentBy ⟨rest, logs'⟩ index)
        else sentBy ⟨rest, logs'⟩ index := by
  by_cases h : i = index <;> simp [sentBy, h, Traffic.join]

theorem sentBy_single (i index : Nat) (t : Traffic) (logs : List LogRecord) :
    sentBy ⟨[(i, t)], logs⟩ index = if i = index then t else Traffic.none := by
  rw [sentBy_cons i index t [] logs logs]
  split
  · exact Traffic.followedBy_none t
  · rfl

end ForwarderOutput

namespace Connection

theorem run_append (c : Connection) (es fs : List ConnectionEvent) :
    c.run (es ++ fs)
      = (((c.run es).1.run fs).1, (c.run es).2.followedBy ((c.run es).1.run fs).2) := by
  induction es generalizing c with
  | nil => simp [run]
  | cons e es ih => simp [run, ih, Traffic.followedBy_assoc]

theorem run_single (c : Connection) (e : ConnectionEvent) :
    c.run [e] = ((c.step e).1, (c.step e).2.1) := by
  simp [run]

/-- Shutting down matters only to a connection without a WebSocket. -/
theorem step_shutdown {c : Connection} (h : ∀ waiting, c ≠ .connecting waiting) :
    c.step .shutdown = (c, Traffic.none, []) := by
  cases c with
  | connecting waiting => exact absurd rfl (h waiting)
  | _ => rfl

/-- A connection that no longer waits for a WebSocket never does so again. -/
theorem step_decided {c : Connection} (h : ∀ waiting, c ≠ .connecting waiting)
    (e : ConnectionEvent) (waiting : Relay) : (c.step e).1 ≠ .connecting waiting := by
  cases c with
  | connecting w => exact absurd rfl (h w)
  | failed cause => cases e <;> nofun
  | abandoned => cases e <;> nofun
  | relayed r =>
    cases e with
    | advance span =>
      simp only [step, relayStep]
      split <;> nofun
    | relay event =>
      simp only [step, relayStep]
      split <;> (try split) <;> nofun
    | _ => nofun

theorem shutdown_decides (c : Connection) (waiting : Relay) :
    (c.step .shutdown).1 ≠ .connecting waiting := by
  cases c <;> nofun

end Connection

namespace Forwarder

/-! ### Events for all connections -/

theorem stepAll_connections (e : ConnectionEvent) (first : Nat) (cs : List Connection) :
    (stepAll e first cs).1 = cs.map fun c => (c.step e).1 := by
  induction cs generalizing first with
  | nil => rfl
  | cons c rest ih => exact congrArg ((c.step e).1 :: ·) (ih (first + 1))

theorem stepAll_cons (e : ConnectionEvent) (first index : Nat) (c : Connection)
    (rest : List Connection) :
    (stepAll e first (c :: rest)).2.sentBy index
      = if first = index then (c.step e).2.1.followedBy ((stepAll e (first + 1) rest).2.sentBy index)
        else (stepAll e (first + 1) rest).2.sentBy index :=
  ForwarderOutput.sentBy_cons _ _ _ _ _ _

theorem stepAll_before (e : ConnectionEvent) {first index : Nat} (cs : List Connection)
    (h : index < first) : (stepAll e first cs).2.sentBy index = Traffic.none := by
  induction cs generalizing first with
  | nil => rfl
  | cons c rest ih => rw [stepAll_cons, if_neg (by omega), ih (by omega)]

/-- Each connection sends what the event makes it send. -/
theorem stepAll_sentBy (e : ConnectionEvent) (first k : Nat) (cs : List Connection) :
    (stepAll e first cs).2.sentBy (first + k)
      = cs[k]?.elim Traffic.none fun c => (c.step e).2.1 := by
  induction cs generalizing first k with
  | nil => rfl
  | cons d rest ih =>
    rw [stepAll_cons]
    cases k with
    | zero =>
      rw [if_pos (Nat.add_zero first).symm, stepAll_before e rest (by omega),
        Traffic.followedBy_none]
      rfl
    | succ k =>
      rw [if_neg (by omega), List.getElem?_cons_succ, ← ih (first + 1) k]
      congr 1
      omega

/-! ### Events for the forwarder -/

section Steps

variable {f : Forwarder}

theorem step_accept (h : f.accepting = true) (dial : DialOutcome) :
    f.step (.accept dial) =
      ({ f with
          connections := f.connections ++ [(Connection.accept f.limits f.deadline dial).1] },
        ⟨[(f.connections.length, (Connection.accept f.limits f.deadline dial).2.1)],
          (Connection.accept f.limits f.deadline dial).2.2⟩) := by
  simp [step, h]

theorem step_accept_closed (h : f.accepting = false) (dial : DialOutcome) :
    f.step (.accept dial) = (f, ForwarderOutput.none) := by
  simp [step, h, ForwarderOutput.none]

theorem step_shutdown (h : f.accepting = true) :
    f.step .shutdown =
      ({ f with accepting := false, connections := (stepAll .shutdown 0 f.connections).1 },
        ⟨(stepAll .shutdown 0 f.connections).2.traffic,
          shutdownRecords ++ (stepAll .shutdown 0 f.connections).2.logs⟩) := by
  simp [step, h]

theorem step_shutdown_closed (h : f.accepting = false) :
    f.step .shutdown = (f, ForwarderOutput.none) := by
  simp [step, h, ForwarderOutput.none]

end Steps

/-! ### One connection -/

/-- The connection with an index, which no longer waits for a WebSocket if the forwarder has been
shut down. -/
structure Holds (f : Forwarder) (index : Nat) (c : Connection) : Prop where
  get : f.connections[index]? = some c
  decided : f.accepting = false → ∀ waiting, c ≠ .connecting waiting

variable {f : Forwarder} {index : Nat} {c : Connection}

/-- An event that happens to all connections happens to each of them. -/
theorem Holds.all (h : f.Holds index c) (e : ConnectionEvent) {accepting : Bool}
    (hdecided : accepting = false → ∀ waiting, (c.step e).1 ≠ .connecting waiting) :
    { f with
      accepting := accepting
      connections := (stepAll e 0 f.connections).1 : Forwarder }.Holds index (c.run [e]).1 ∧
      (stepAll e 0 f.connections).2.sentBy index = (c.run [e]).2 := by
  refine ⟨⟨?_, ?_⟩, ?_⟩
  · show (stepAll e 0 f.connections).1[index]? = _
    rw [stepAll_connections, List.getElem?_map, h.get, c.run_single]
    rfl
  · rw [c.run_single]
    exact hdecided
  · have := stepAll_sentBy e 0 index f.connections
    rw [Nat.zero_add] at this
    rw [this, h.get, c.run_single]
    rfl

/-- What happens to one connection alone happens to it, or to none if there is no such connection
or the event is for all of them. -/
theorem stepOne_cases (f : Forwarder) (i : Nat) (e : ConnectionEvent) :
    (e.isSingle = false ∨ f.connections[i]? = none) ∧ f.stepOne i e = (f, ForwarderOutput.none) ∨
      ∃ d, e.isSingle = true ∧ f.connections[i]? = some d ∧
        f.stepOne i e = ({ f with connections := f.connections.set i (d.step e).1 },
          ⟨[(i, (d.step e).2.1)], (d.step e).2.2⟩) := by
  unfold stepOne
  cases hget : f.connections[i]? with
  | none => exact .inl ⟨.inr rfl, by cases e <;> rfl⟩
  | some d =>
    cases e with
    | shutdown => exact .inl ⟨.inl rfl, rfl⟩
    | advance span => exact .inl ⟨.inl rfl, rfl⟩
    | _ => exact .inr ⟨d, rfl, rfl, rfl⟩

/-- What happens to one connection alone leaves the others as they are. -/
theorem Holds.one (h : f.Holds index c) (i : Nat) (e : ConnectionEvent) :
    let seen := ((ForwarderEvent.connection i e).at? index).toList
    (f.stepOne i e).1.Holds index (c.run seen).1 ∧
      (f.stepOne i e).2.sentBy index = (c.run seen).2 := by
  intro seen
  rcases stepOne_cases f i e with ⟨hnone, hstep⟩ | ⟨d, hsingle, hget, hstep⟩
  · have hseen : seen = [] := by
      rcases hnone with hsingle | hget
      · simp [seen, ForwarderEvent.at?, hsingle]
      · have hne : i ≠ index := by
          rintro rfl
          cases h.get.symm.trans hget
        simp [seen, ForwarderEvent.at?, hne]
    rw [hstep, hseen]
    exact ⟨h, rfl⟩
  · rw [hstep]
    by_cases hi : i = index
    · subst hi
      have hsame : d = c := Option.some.inj (hget.symm.trans h.get)
      have hseen : seen = [e] := by simp [seen, ForwarderEvent.at?, hsingle]
      have hbound : i < f.connections.length := (List.getElem?_eq_some_iff.mp h.get).1
      rw [hsame, hseen, c.run_single]
      refine ⟨⟨List.getElem?_set_self hbound, fun hclosed => ?_⟩, ?_⟩
      · exact Connection.step_decided (h.decided hclosed) e
      · rw [ForwarderOutput.sentBy_single, if_pos rfl]
    · have hseen : seen = [] := by simp [seen, ForwarderEvent.at?, hi]
      rw [hseen]
      refine ⟨⟨?_, h.decided⟩, ?_⟩
      · rw [List.getElem?_set_ne hi]
        exact h.get
      · rw [ForwarderOutput.sentBy_single, if_neg hi]
        rfl

/-- An event is for a connection what it is for this connection alone. -/
theorem step_projection (h : f.Holds index c) (e : ForwarderEvent) :
    (f.step e).1.Holds index (c.run (e.at? index).toList).1 ∧
      (f.step e).2.sentBy index = (c.run (e.at? index).toList).2 := by
  have hbound : index < f.connections.length := (List.getElem?_eq_some_iff.mp h.get).1
  cases e with
  | accept dial =>
    cases hopen : f.accepting with
    | false =>
      rw [step_accept_closed hopen]
      exact ⟨h, rfl⟩
    | true =>
      rw [step_accept hopen]
      refine ⟨⟨?_, h.decided⟩, ?_⟩
      · show (f.connections ++ _)[index]? = some c
        rw [List.getElem?_append_left hbound]
        exact h.get
      · have hne : ¬ f.connections.length = index := by omega
        rw [ForwarderOutput.sentBy_single, if_neg hne]
        rfl
  | acceptFault fault => exact ⟨h, rfl⟩
  | connection i e => exact h.one i e
  | advance span =>
    exact h.all (.advance span) fun hclosed => Connection.step_decided (h.decided hclosed) _
  | shutdown =>
    cases hopen : f.accepting with
    | false =>
      -- a second shutdown reaches nobody, and would change nothing
      have hseen : c.run (ForwarderEvent.shutdown.at? index).toList = (c, Traffic.none) := by
        show c.run [.shutdown] = _
        rw [c.run_single, Connection.step_shutdown (h.decided hopen)]
      rw [step_shutdown_closed hopen, hseen]
      exact ⟨h, rfl⟩
    | true =>
      rw [step_shutdown hopen]
      exact h.all .shutdown fun _ => c.shutdown_decides

theorem run_cons (f : Forwarder) (e : ForwarderEvent) (es : List ForwarderEvent) :
    f.run (e :: es)
      = (((f.step e).1.run es).1, (f.step e).2.followedBy ((f.step e).1.run es).2) :=
  rfl

theorem run_append (f : Forwarder) (es fs : List ForwarderEvent) :
    f.run (es ++ fs)
      = (((f.run es).1.run fs).1, (f.run es).2.followedBy ((f.run es).1.run fs).2) := by
  induction es generalizing f with
  | nil => rfl
  | cons e es ih =>
    rw [List.cons_append, run_cons, ih, run_cons]
    simp [ForwarderOutput.followedBy]

/-- What a forwarder does to a connection over a whole script is what the events that reach this
connection do to it alone. -/
theorem run_projection (h : f.Holds index c) (es : List ForwarderEvent) :
    (f.run es).1.Holds index (c.run (es.filterMap (·.at? index))).1 ∧
      (f.run es).2.sentBy index = (c.run (es.filterMap (·.at? index))).2 := by
  induction es generalizing f c with
  | nil => exact ⟨h, rfl⟩
  | cons e es ih =>
    obtain ⟨hnext, hfirst⟩ := step_projection h e
    obtain ⟨hlast, hrest⟩ := ih hnext
    rw [filterMap_cons_toList, Connection.run_append, run_cons]
    refine ⟨hlast, ?_⟩
    rw [ForwarderOutput.sentBy_followedBy, hfirst, hrest]

/-! ### Connections to come -/

/-- The settings of a forwarder do not change. -/
theorem step_settings (f : Forwarder) (e : ForwarderEvent) :
    (f.step e).1.limits = f.limits ∧ (f.step e).1.deadline = f.deadline := by
  cases e with
  | accept dial =>
    unfold step
    simp only
    split <;> exact ⟨rfl, rfl⟩
  | connection i e =>
    show (f.stepOne i e).1.limits = _ ∧ (f.stepOne i e).1.deadline = _
    unfold stepOne
    split <;> exact ⟨rfl, rfl⟩
  | shutdown =>
    unfold step
    simp only
    split <;> exact ⟨rfl, rfl⟩
  | _ => exact ⟨rfl, rfl⟩

theorem run_settings (f : Forwarder) (es : List ForwarderEvent) :
    (f.run es).1.limits = f.limits ∧ (f.run es).1.deadline = f.deadline := by
  induction es generalizing f with
  | nil => exact ⟨rfl, rfl⟩
  | cons e es ih =>
    obtain ⟨hlimits, hdeadline⟩ := ih (f.step e).1
    obtain ⟨hlimits', hdeadline'⟩ := step_settings f e
    exact ⟨hlimits.trans hlimits', hdeadline.trans hdeadline'⟩

/-- A connection sends nothing before it has been accepted. -/
theorem step_beyond {f : Forwarder} {e : ForwarderEvent} {index : Nat}
    (h : (f.step e).1.connections.length ≤ index) :
    f.connections.length ≤ index ∧ (f.step e).2.sentBy index = Traffic.none := by
  have hall (e : ConnectionEvent) (h : (stepAll e 0 f.connections).1.length ≤ index) :
      f.connections.length ≤ index ∧
        (stepAll e 0 f.connections).2.sentBy index = Traffic.none := by
    rw [stepAll_connections, List.length_map] at h
    have := stepAll_sentBy e 0 index f.connections
    rw [Nat.zero_add, List.getElem?_eq_none h] at this
    exact ⟨h, this⟩
  cases e with
  | accept dial =>
    cases hopen : f.accepting with
    | false =>
      rw [step_accept_closed hopen] at h ⊢
      exact ⟨h, rfl⟩
    | true =>
      rw [step_accept hopen] at h ⊢
      rw [List.length_append, List.length_singleton] at h
      have hne : ¬ f.connections.length = index := by omega
      exact ⟨by omega, by rw [ForwarderOutput.sentBy_single, if_neg hne]⟩
  | acceptFault fault => exact ⟨h, rfl⟩
  | connection i e =>
    show f.connections.length ≤ index ∧ (f.stepOne i e).2.sentBy index = Traffic.none
    replace h : (f.stepOne i e).1.connections.length ≤ index := h
    rcases stepOne_cases f i e with ⟨-, hstep⟩ | ⟨d, -, hget, hstep⟩
    · rw [hstep] at h ⊢
      exact ⟨h, rfl⟩
    · rw [hstep] at h ⊢
      rw [List.length_set] at h
      have hbound : i < f.connections.length := (List.getElem?_eq_some_iff.mp hget).1
      have hne : ¬ i = index := by omega
      exact ⟨h, by rw [ForwarderOutput.sentBy_single, if_neg hne]⟩
  | advance span => exact hall (.advance span) h
  | shutdown =>
    cases hopen : f.accepting with
    | false =>
      rw [step_shutdown_closed hopen] at h ⊢
      exact ⟨h, rfl⟩
    | true =>
      rw [step_shutdown hopen] at h ⊢
      exact hall .shutdown h

theorem run_beyond {f : Forwarder} {es : List ForwarderEvent} {index : Nat}
    (h : (f.run es).1.connections.length ≤ index) :
    f.connections.length ≤ index ∧ (f.run es).2.sentBy index = Traffic.none := by
  induction es generalizing f with
  | nil => exact ⟨h, rfl⟩
  | cons e es ih =>
    rw [run_cons] at h ⊢
    obtain ⟨hnext, hrest⟩ := ih h
    obtain ⟨hlength, hfirst⟩ := step_beyond hnext
    refine ⟨hlength, ?_⟩
    rw [ForwarderOutput.sentBy_followedBy, hfirst, hrest]
    rfl

end Forwarder

end Carrier
