import Carrier.Proofs.Relay.Outbound

/-!
# What waits until a relay begins

An application may write before there is a WebSocket to relay to. A relay that finds what has
waited does with it what it would have done with one event after the other.

- `Event.isLocal`: the events that may wait.
- `Relay.Quiet`: a relay to which nothing has come from the other end.
- `Relay.settle_absorb`: settling once, after another event.
- `Relay.session_waiting`: a session that begins with what has waited.
-/

namespace Carrier

/-- Whether an event happens on the application's side. -/
def Event.isLocal : Event → Bool
  | .remoteBytes _ | .remoteDrop | .cancel | .advance _ => false
  | _ => true

namespace Relay

/-! ### Settling without the other end -/

/-- A relay to which nothing has come from the other end, with time left. -/
structure Quiet (r : Relay) : Prop where
  running : r.cause = none
  held : r.held = none
  wire : r.wire = {}
  inTime : ∀ limit, r.deadline = some limit → ¬ limit ≤ r.elapsed

/-- The relay when all that the application wrote has been sent. -/
def drained (r : Relay) : Relay := r.emptied.credited r.outgoing.flatten.length

theorem Quiet.drained {r : Relay} (h : Quiet r) : Quiet r.drained :=
  ⟨h.running, h.held, h.wire, h.inTime⟩

theorem Quiet.absorb {r : Relay} (h : Quiet r) {e : Event} (he : e.isLocal = true) :
    Quiet (r.absorb e) := by
  cases e with
  | remoteBytes data => cases he
  | remoteDrop => cases he
  | cancel => cases he
  | advance span => cases he
  | _ => exact ⟨h.running, h.held, h.wire, h.inTime⟩

theorem Quiet.inward {r : Relay} (h : Quiet r) : r.inward = (r, Traffic.none) := by
  have hidle : r.takeIn = none := by
    simp [takeIn, readNext, h.held, h.wire, Intake.read, WireFrame.read]
  rw [Relay.inward]
  split
  · rfl
  · rename_i hmove
    cases hidle.symm.trans hmove

theorem Quiet.expire {r : Relay} (h : Quiet r) : r.expire = (r, Traffic.none) := by
  unfold Relay.expire
  cases hlimit : r.deadline with
  | none => rfl
  | some limit => exact if_neg (h.inTime limit hlimit)

/-- A quiet relay only sends, and looks at how the application's data end. -/
theorem Quiet.settle {r : Relay} (h : Quiet r) :
    r.settle = ((r.drained.send []).1,
      (⟨r.outgoing.map (Frame.whole .binary), []⟩ : Traffic).followedBy (r.drained.send []).2) := by
  have hopen : r.emptied.wire.dropped = false := by
    show r.wire.dropped = false
    rw [h.wire]
  have hout : r.outward = ((r.drained.send []).1,
      (⟨r.outgoing.map (Frame.whole .binary), []⟩ : Traffic).followedBy (r.drained.send []).2) :=
    send_eq r.emptied r.outgoing (.inl hopen)
  unfold Relay.settle
  rw [hout]
  cases hend : r.app.readEnd with
  | none =>
    have hsend : r.drained.send [] = (r.drained, Traffic.none) := by
      have : r.drained.app.readEnd = none := hend
      simp [send, this]
    rw [hsend]
    simp [andThen, h.drained.running, h.drained.inward, h.drained.expire]
  | some how =>
    have hsend : ∃ cause, r.drained.send [] = r.drained.finish cause := by
      have : r.drained.app.readEnd = some how := hend
      cases how with
      | eof => exact ⟨.localEof, by simp [send, this]⟩
      | failed fault => exact ⟨.localReadFailed fault, by simp [send, this]⟩
    obtain ⟨cause, hsend⟩ := hsend
    rw [hsend]
    rfl

/-! ### One event after the other -/

/-- Settling once after another event is settling twice. -/
theorem Quiet.settle_absorb {r : Relay} (h : Quiet r) (hend : r.app.readEnd = none) {e : Event}
    (he : e.isLocal = true) :
    (r.absorb e).settle
      = ((r.settle.1.step e).1, r.settle.2.followedBy (r.settle.1.step e).2) := by
  have hcancel : e ≠ .cancel := by
    rintro rfl
    cases he
  have hfirst : r.settle = (r.drained, ⟨r.outgoing.map (Frame.whole .binary), []⟩) := by
    have hsend : r.drained.send [] = (r.drained, Traffic.none) := by
      have : r.drained.app.readEnd = none := hend
      simp [send, this]
    rw [h.settle, hsend, Traffic.followedBy_none]
  -- the chunks are sent in two parts or at once, with the same count
  have hdrained : (r.drained.absorb e).drained = (r.absorb e).drained := by
    cases e with
    | localWrite data =>
      simp [Relay.absorb, Relay.drained, emptied, credited, outgoing, Nat.add_assoc]
    | remoteBytes data => cases he
    | _ => rfl
  have houtgoing : (r.absorb e).outgoing = r.outgoing ++ (r.drained.absorb e).outgoing := by
    rw [absorb_outgoing, absorb_outgoing]
    rfl
  rw [hfirst, step_settle h.drained.running hcancel, (h.absorb he).settle,
    (h.drained.absorb he).settle, hdrained, houtgoing, List.map_append]
  refine Prod.ext rfl ?_
  simp [Traffic.followedBy]

section Waiting

variable {r : Relay} {early : List Event}

theorem Quiet.foldl_absorb (h : Quiet r) (hlocal : ∀ e ∈ early, e.isLocal = true) :
    Quiet (early.foldl Relay.absorb r) := by
  induction early generalizing r with
  | nil => exact h
  | cons e es ih =>
    exact ih (h.absorb (hlocal e List.mem_cons_self))
      fun e' he' => hlocal e' (List.mem_cons_of_mem e he')

theorem foldl_absorb_readEnd (h : r.app.readEnd = none)
    (hends : ∀ e ∈ early, e.endsData = false) :
    (early.foldl Relay.absorb r).app.readEnd = none := by
  induction early generalizing r with
  | nil => exact h
  | cons e es ih =>
    exact ih ((absorb_readEnd r e).mpr ⟨h, hends e List.mem_cons_self⟩)
      fun e' he' => hends e' (List.mem_cons_of_mem e he')

/-- A relay that begins with what has waited sends what it would have sent by then. -/
theorem Quiet.settle_waiting (h : Quiet r) (hopen : r.app.readEnd = none)
    (hlocal : ∀ e ∈ early, e.isLocal = true) (hends : ∀ e ∈ early.dropLast, e.endsData = false) :
    (early.foldl Relay.absorb r).settle = r.session early := by
  induction early using List.reverseRecOn with
  | nil => rw [session_nil, List.foldl_nil]
  | append_singleton es e ih =>
    rw [List.dropLast_concat] at hends
    have hes : ∀ e' ∈ es, e'.isLocal = true := fun e' he' => hlocal e' (List.mem_append_left _ he')
    have he : e.isLocal = true := hlocal e (List.mem_append_right _ (List.mem_singleton_self e))
    rw [List.foldl_append, List.foldl_cons, List.foldl_nil,
      (h.foldl_absorb hes).settle_absorb (foldl_absorb_readEnd hopen hends) he, session_snoc,
      ih hes fun e' he' => hends e' (List.dropLast_subset es he')]

/-- A session that begins with what has waited goes on as if it had begun before. -/
theorem Quiet.session_waiting (h : Quiet r) (hopen : r.app.readEnd = none)
    (hlocal : ∀ e ∈ early, e.isLocal = true) (hends : ∀ e ∈ early.dropLast, e.endsData = false)
    (late : List Event) :
    (early.foldl Relay.absorb r).session late = r.session (early ++ late) := by
  rw [session_append, ← h.settle_waiting hopen hlocal hends]
  rfl

end Waiting

end Relay

end Carrier
