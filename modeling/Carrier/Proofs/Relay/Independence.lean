import Carrier.Proofs.Relay.Outbound

/-!
# One direction does not wait for the other

What the application writes is sent to the other end at once. What comes from there, and whether the
application takes it, makes no difference to it as long as the relay goes on.

- `Event.isInward`: the events that concern the direction to the application alone.
- `Event.answers`: the frames that the writes of a script call for.
- `Relay.answers`: the frames with which a relay answers them.
- `Relay.Settled.step_localWrite`: a relay that waits answers a write, and nothing else changes.
- `Relay.session_answered`: every session answers its writes as they call for.
- `Relay.session_independent`: no script is answered otherwise for what happens inward.
-/

namespace Carrier

namespace Traffic

/-- The binary frames sent to the other end. -/
def binary (t : Traffic) : List Frame := t.frames.filter (·.opcode = .binary)

@[simp] theorem binary_followedBy (t u : Traffic) :
    (t.followedBy u).binary = t.binary ++ u.binary := by
  simp [binary]

theorem binary_control {t : Traffic} (h : ∀ f ∈ t.frames, f.opcode.isControl = true) :
    t.binary = [] := by
  refine List.filter_eq_nil_iff.mpr ?_
  intro f hf hbinary
  have hcontrol := h f hf
  rw [of_decide_eq_true hbinary] at hcontrol
  cases hcontrol

theorem binary_whole (payloads writes : List Bytes) :
    (⟨payloads.map (Frame.whole .binary), writes⟩ : Traffic).binary
      = payloads.map (Frame.whole .binary) := by
  refine List.filter_eq_self.mpr ?_
  intro f hf
  obtain ⟨payload, -, rfl⟩ := List.mem_map.mp hf
  rfl

end Traffic

namespace Event

/-- Whether an event concerns the direction to the application alone: what comes from the other end,
and how the application takes it. -/
def isInward : Event → Bool
  | .localStall | .localResume | .localWriteLimit _ | .remoteBytes _ => true
  | _ => false

/-- The frames that a write calls for, unless the other end has gone. -/
def answer (gone : Bool) (data : Bytes) : List Frame :=
  if gone then [] else (Bytes.pieces chunkSize data).map (Frame.whole .binary)

/-- The frames that the writes of a script call for, write by write. -/
def answers (gone : Bool) : List Event → List (List Frame)
  | [] => []
  | .localWrite data :: es => answer gone data :: answers gone es
  | .remoteDrop :: es => answers true es
  | _ :: es => answers gone es

theorem answers_other (gone : Bool) {e : Event} (he : ∀ data, e ≠ .localWrite data)
    (es : List Event) : answers gone (e :: es) = answers (gone || e = .remoteDrop) es := by
  cases e with
  | localWrite data => exact absurd rfl (he data)
  | _ => simp [answers]

/-- What happens inward calls for nothing. -/
theorem answers_filter (gone : Bool) (script : List Event) :
    answers gone (script.filter (!·.isInward)) = answers gone script := by
  induction script generalizing gone with
  | nil => rfl
  | cons e es ih =>
    cases e with
    | localWrite data => exact congrArg (answer gone data :: ·) (ih gone)
    | remoteDrop => exact ih true
    | _ => exact ih gone

end Event

namespace Relay

/-- The binary frames that a relay sends in response to the writes of a script, write by write, as
long as it runs. -/
def answers (r : Relay) : List Event → List (List Frame)
  | [] => []
  | e :: es =>
    match r.cause, e with
    | none, .localWrite _ => (r.step e).2.binary :: answers (r.step e).1 es
    | _, _ => answers (r.step e).1 es

/-! ### Writes -/

/-- Nothing is taken in exactly while the application does not take a message that waits, or while a
frame has not come as a whole. -/
theorem takeIn_eq_none {r : Relay} :
    r.takeIn = none ↔
      (∃ payload, r.held = some payload ∧ deliver r.app payload = .blocked) ∨
        (r.held = none ∧ Intake.read r.limits r.pending r.wire.unread = .incomplete ∧
          r.wire.dropped = false) := by
  unfold takeIn
  cases hheld : r.held with
  | some payload =>
    show r.handOver payload = none ↔ _
    unfold handOver
    cases hdel : deliver r.app payload <;> simp [hdel]
  | none =>
    show r.readNext = none ↔ _
    unfold readNext
    cases Intake.read r.limits r.pending r.wire.unread <;> simp

/-- What has been sent makes no difference to what can be taken in. -/
theorem takeIn_credited {r : Relay} (h : r.takeIn = none) (n : Nat) :
    (r.credited n).takeIn = none := by
  have hidle := takeIn_eq_none.mp h
  exact takeIn_eq_none.mpr hidle

theorem pieces_chunkSize_nil : Bytes.pieces chunkSize [] = [] := by
  rw [Bytes.pieces]

/-- A relay that waits has only the one chunk to send. -/
theorem Settled.absorb_localWrite {r : Relay} (h : Settled r) (data : Bytes) :
    (r.absorb (.localWrite data)).emptied = r ∧
      (r.absorb (.localWrite data)).outgoing = Bytes.pieces chunkSize data := by
  constructor
  · show r.emptied = r
    rw [emptied, ← h.sent]
  · show (r.app.unread ++ [data]).flatMap (Bytes.pieces chunkSize) = _
    rw [h.sent]
    simp

section Writing

variable {r : Relay} (hrun : r.cause = none) (h : Settled r) (data : Bytes)
include hrun h

/-- A relay that waits answers a write with all of it, at once. Nothing else changes: what waits for
the application goes on waiting. -/
theorem Settled.step_localWrite (hopen : r.wire.dropped = false ∨ data = []) :
    r.step (.localWrite data) =
      (r.credited data.length, ⟨(Bytes.pieces chunkSize data).map (Frame.whole .binary), []⟩) := by
  have hcancel : Event.localWrite data ≠ .cancel := nofun
  obtain ⟨hemptied, houtgoing⟩ := h.absorb_localWrite data
  have hopen' : r.wire.dropped = false ∨ Bytes.pieces chunkSize data = [] := by
    rcases hopen with hopen | rfl
    · exact .inl hopen
    · exact .inr pieces_chunkSize_nil
  have hrest : (r.credited data.length).send [] = (r.credited data.length, Traffic.none) := by
    have hend : (r.credited data.length).app.readEnd = none := h.unended
    simp [send, hend]
  have hout : (r.absorb (.localWrite data)).outward = (r.credited data.length,
      ⟨(Bytes.pieces chunkSize data).map (Frame.whole .binary), []⟩) := by
    show (r.absorb (.localWrite data)).emptied.send (r.absorb (.localWrite data)).outgoing = _
    rw [hemptied, houtgoing, send_eq r _ hopen', Bytes.pieces_flatten, hrest,
      Traffic.followedBy_none]
  -- the count of what was sent is nothing that the other direction or the clock looks at
  have hinward := inward_none (takeIn_credited h.idle data.length)
  have hexpire : (r.credited data.length).expire = (r.credited data.length, Traffic.none) :=
    expire_inTime h.inTime
  have hstill : (r.credited data.length).cause = none := hrun
  rw [step_settle hrun hcancel, Relay.settle, hout]
  simp [andThen, hstill, hinward, hexpire]

/-- To an end that has gone nothing is sent. -/
theorem Settled.step_localWrite_dropped (hdrop : r.wire.dropped = true) (hdata : data ≠ []) :
    r.step (.localWrite data) = r.finish (.remoteSendFailed sendFault) := by
  have hcancel : Event.localWrite data ≠ .cancel := nofun
  obtain ⟨hemptied, houtgoing⟩ := h.absorb_localWrite data
  have hpieces : Bytes.pieces chunkSize data ≠ [] := by
    intro hnone
    have hflat := Bytes.pieces_flatten chunkSize data
    rw [hnone] at hflat
    exact hdata hflat.symm
  have hout : (r.absorb (.localWrite data)).outward = r.finish (.remoteSendFailed sendFault) := by
    show (r.absorb (.localWrite data)).emptied.send (r.absorb (.localWrite data)).outgoing = _
    rw [hemptied, houtgoing, send_dropped r _ hdrop hpieces]
  rw [step_settle hrun hcancel, Relay.settle, hout]
  simp [andThen]

/-- A relay that waits answers a write as it has to, whatever else it waits for. -/
theorem Settled.step_answer :
    (r.step (.localWrite data)).2.binary = Event.answer r.wire.dropped data := by
  by_cases hopen : r.wire.dropped = false ∨ data = []
  · rw [h.step_localWrite hrun data hopen, Traffic.binary_whole, Event.answer]
    rcases hopen with hopen | rfl
    · rw [hopen]
      rfl
    · rw [pieces_chunkSize_nil]
      exact (ite_self _).symm
  · rw [not_or, Bool.not_eq_false] at hopen
    rw [h.step_localWrite_dropped hrun data hopen.1 hopen.2, hopen.1]
    exact Traffic.binary_control (r.finish_control _)

end Writing

/-! ### Other events -/

/-- A relay that has nothing to send makes no move that sends any. -/
theorem Move.silent {r s : Relay} {t : Traffic} (h : Move r t s) (hsent : r.app.unread = []) :
    t.binary = [] := by
  cases h with
  | sent hopen => simp [outgoing, hsent, Traffic.binary]
  | skipped hread hnone => rfl
  | answered hread hopen => rfl
  | received hread => rfl
  | handed hheld hdel => rfl
  | @ended cause writes s hend =>
    rw [Traffic.binary_followedBy, Traffic.binary_control (s.finish_control cause)]
    rfl

theorem Moves.silent {r s : Relay} {t : Traffic} (h : Moves r t s) (hsent : r.app.unread = []) :
    t.binary = [] := by
  induction h with
  | refl r => rfl
  | next hrun hmove hrest ih =>
    rw [Traffic.binary_followedBy, hmove.silent hsent, ih ?_]
    · rfl
    · rcases hmove.keeps.unread with hsame | hnone
      · rw [hsame, hsent]
      · exact hnone

/-- A relay sends no binary frame but in response to a write. -/
theorem Settled.step_silent {r : Relay} (hrun : r.cause = none) (h : Settled r) {e : Event}
    (he : ∀ data, e ≠ .localWrite data) : (r.step e).2.binary = [] := by
  by_cases hcancel : e = .cancel
  · subst hcancel
    rw [step_cancel hrun]
    exact Traffic.binary_control (r.finish_control .cancelled)
  · have hstill : (r.absorb e).cause = none := by rw [absorb_cause, hrun]
    have hsent : (r.absorb e).app.unread = [] := by
      cases e with
      | localWrite data => exact absurd rfl (he data)
      | remoteBytes data =>
        simp only [absorb]
        split <;> exact h.sent
      | _ => exact h.sent
    rw [step_settle hrun hcancel]
    exact (settle_moves hstill).silent hsent

/-! ### Whole scripts -/

/-- A relay that has ended answers nothing. -/
theorem answers_ended {r : Relay} (h : r.cause ≠ none) (es : List Event) : r.answers es = [] := by
  induction es with
  | nil => rfl
  | cons e es ih =>
    unfold answers
    split
    · rename_i hrun
      exact absurd hrun h
    · rw [step_ended h]
      exact ih

theorem answers_localWrite {r : Relay} (hrun : r.cause = none) (data : Bytes) (es : List Event) :
    r.answers (.localWrite data :: es)
      = (r.step (.localWrite data)).2.binary :: (r.step (.localWrite data)).1.answers es := by
  rw [answers]
  exact hrun

theorem answers_other {r : Relay} {e : Event} (he : ∀ data, e ≠ .localWrite data)
    (es : List Event) : r.answers (e :: es) = (r.step e).1.answers es := by
  rw [answers]
  intro data _ hwrite
  exact he data hwrite

/-- A relay answers as long as it runs, and what it answers is what the writes call for; all of it,
if it has not ended. -/
theorem answers_called {r : Relay} (hrest : r.cause = none → Settled r) (es : List Event) :
    r.answers es <+: Event.answers r.wire.dropped es ∧
      ((r.run es).1.cause = none → r.answers es = Event.answers r.wire.dropped es) := by
  -- every step leaves a relay that waits or has ended, which is all that the next one needs
  induction es generalizing r with
  | nil => exact ⟨List.prefix_rfl, fun _ => rfl⟩
  | cons e es ih =>
    by_cases hrun : r.cause = none
    · have hlater := ih (r := (r.step e).1) step_settled
      have hdropped : (r.step e).1.wire.dropped = (r.wire.dropped || e = .remoteDrop) := by
        rw [Bool.eq_iff_iff, step_dropped hrun e]
        simp
      rw [hdropped] at hlater
      obtain ⟨hfirst, hall⟩ := hlater
      by_cases he : ∃ data, e = .localWrite data
      · obtain ⟨data, rfl⟩ := he
        have hsame : (r.wire.dropped || decide (Event.localWrite data = .remoteDrop))
            = r.wire.dropped := by simp
        rw [hsame] at hfirst hall
        rw [answers_localWrite hrun, (hrest hrun).step_answer hrun]
        refine ⟨List.cons_prefix_cons.mpr ⟨rfl, hfirst⟩, ?_⟩
        intro hend
        exact congrArg (Event.answer r.wire.dropped data :: ·) (hall hend)
      · have hother : ∀ data, e ≠ .localWrite data := fun data h => he ⟨data, h⟩
        rw [answers_other hother, Event.answers_other _ hother]
        exact ⟨hfirst, hall⟩
    · rw [answers_ended hrun, run_ended hrun]
      refine ⟨List.nil_prefix, ?_⟩
      intro hend
      exact absurd hend hrun

/-- All the binary frames that a relay sends are answers. -/
theorem run_binary {r : Relay} (hrest : r.cause = none → Settled r) (es : List Event) :
    (r.run es).2.binary = (r.answers es).flatten := by
  induction es generalizing r with
  | nil => rfl
  | cons e es ih =>
    by_cases hrun : r.cause = none
    · have hlater := ih (r := (r.step e).1) step_settled
      show ((r.step e).2.followedBy ((r.step e).1.run es).2).binary = _
      rw [Traffic.binary_followedBy, hlater]
      by_cases he : ∃ data, e = .localWrite data
      · obtain ⟨data, rfl⟩ := he
        rw [answers_localWrite hrun, List.flatten_cons]
      · have hother : ∀ data, e ≠ .localWrite data := fun data h => he ⟨data, h⟩
        rw [answers_other hother, (hrest hrun).step_silent hrun hother, List.nil_append]
    · rw [run_ended hrun, answers_ended hrun]
      rfl

/-- A session in which the writes call for some frames: as long as the relay runs each write has its
answer, and no other binary frame is sent. -/
structure Answered (begun : Relay) (script : List Event) (called : List (List Frame)) : Prop where
  /-- What is answered is what was called for, write by write. -/
  first : begun.settle.1.answers script <+: called
  /-- Every write is answered, if the relay has not ended. -/
  all : (begun.session script).1.cause = none → begun.settle.1.answers script = called
  /-- Nothing else is sent in binary frames. -/
  only : (begun.session script).2.binary = (begun.settle.1.answers script).flatten

theorem session_answered (limits : Limits) (deadline : Option Duration) (script : List Event) :
    Answered { limits := limits, deadline := deadline } script (Event.answers false script) := by
  generalize hbegun : ({ limits := limits, deadline := deadline } : Relay) = begun
  have hrun : begun.cause = none := by rw [← hbegun]
  have hwire : begun.wire.dropped = false := by rw [← hbegun]
  have hsent : begun.app.unread = [] := by rw [← hbegun]
  have hrest : begun.settle.1.cause = none → Settled begun.settle.1 := settle_settled
  have hopen : begun.settle.1.wire.dropped = false := by
    rw [(settle_moves hrun).keeps.dropped, hwire]
  obtain ⟨hfirst, hall⟩ := answers_called hrest script
  rw [hopen] at hfirst hall
  refine ⟨hfirst, hall, ?_⟩
  show (begun.settle.2.followedBy (begun.settle.1.run script).2).binary = _
  rw [Traffic.binary_followedBy, (settle_moves hrun).silent hsent, List.nil_append,
    run_binary hrest]

/-- What comes from the other end and how the application takes it makes no difference to what is
sent in response to its writes. Two scripts that differ in nothing else are answered alike, write by
write, up to the step in which one of the relays ends: each piece of a write is one binary frame,
unless the other end has gone. -/
theorem session_independent (limits : Limits) (deadline : Option Duration)
    {script other : List Event}
    (hsame : script.filter (!·.isInward) = other.filter (!·.isInward)) :
    let begun : Relay := { limits := limits, deadline := deadline }
    let here := begun.settle.1.answers script
    let there := begun.settle.1.answers other
    (here <+: there ∨ there <+: here) ∧
      begun.Answered script (Event.answers false script) ∧
      begun.Answered other (Event.answers false script) := by
  intro begun here there
  have hcalled : Event.answers false other = Event.answers false script := by
    rw [← Event.answers_filter false other, ← hsame, Event.answers_filter]
  have hhere := session_answered limits deadline script
  have hthere := session_answered limits deadline other
  rw [hcalled] at hthere
  exact ⟨List.prefix_or_prefix_of_prefix hhere.first hthere.first, hhere, hthere⟩

/-- An application that takes nothing, so that a message waits and another is not read: its writes
are answered as if nothing had come. -/
theorem session_independent_stalled :
    let script : List Event := [.localWrite [1], .localWrite [2, 3]]
    let other : List Event := [.localStall, .remoteBytes [0x82, 1, 7], .localWrite [1],
      .remoteBytes [0x81, 1, 104], .localWriteLimit 1, .localWrite [2, 3]]
    let begun : Relay := { limits := {}, deadline := none }
    let here := begun.settle.1.answers script
    let there := begun.settle.1.answers other
    ((here <+: there ∨ there <+: here) ∧
      begun.Answered script (Event.answers false script) ∧
      begun.Answered other (Event.answers false script)) ∧
    there = [[.whole .binary [1]], [.whole .binary [2, 3]]] ∧ here = there ∧
      (begun.session other).1.cause = none ∧ (begun.session other).1.held = some [7] := by
  intro script other begun here there
  refine ⟨session_independent {} none (by decide), ?_, ?_, ?_, ?_⟩
  · decide +kernel
  · decide +kernel
  · decide +kernel
  · decide +kernel

end Relay

end Carrier
