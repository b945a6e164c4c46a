import Carrier.Proofs.Relay.Causes
import Carrier.Proofs.Relay.Segmentation

/-!
# The clock of a relay

A relay looks at its clock last of all that it does after an event. What it does before is the same
whatever the clock says, and a relay that may last for ever never notices the clock.

- `Event.isAdvance`: the events of the clock.
- `Relay.clocked`: a relay with another clock.
- `Relay.exchange`: all that a relay does before it looks at the clock.
- `Relay.exchange_clocked`: it is the same with another clock.
- `Relay.Synchronous`: relays without a limit that differ in their clocks.
- `Relay.session_timeless`: a session without a limit may leave the clock out.
-/

namespace Carrier

/-- Whether an event is that time passes. -/
def Event.isAdvance : Event → Bool
  | .advance _ => true
  | _ => false

namespace Relay

/-- The relay with another time allowed, of which so much is over. -/
def clocked (r : Relay) (deadline : Option Duration) (elapsed : Duration) : Relay :=
  { r with deadline := deadline, elapsed := elapsed }

/-- A relay and its traffic, with another clock. -/
def reclock (deadline : Option Duration) (elapsed : Duration) (x : Relay × Traffic) :
    Relay × Traffic :=
  (x.1.clocked deadline elapsed, x.2)

/-- All that a relay does before it looks at the clock. -/
def exchange (r : Relay) : Relay × Traffic := andThen r.outward inward

theorem settle_exchange (r : Relay) : r.settle = andThen r.exchange expire := rfl

/-! ### Before a relay looks at the clock -/

section Clock

variable (r : Relay) (deadline : Option Duration) (elapsed : Duration)

theorem reclock_fst (x : Relay × Traffic) :
    (reclock deadline elapsed x).1 = x.1.clocked deadline elapsed := rfl

theorem send_clocked (pieces : List Bytes) :
    (r.clocked deadline elapsed).send pieces = reclock deadline elapsed (r.send pieces) := by
  induction pieces generalizing r with
  | nil =>
    have happ : (r.clocked deadline elapsed).app = r.app := rfl
    simp only [send, happ]
    split <;> rfl
  | cons piece rest ih =>
    cases hdrop : r.wire.dropped with
    | true =>
      have hne := List.cons_ne_nil piece rest
      rw [send_dropped r _ hdrop hne, send_dropped (r.clocked deadline elapsed) _ hdrop hne]
      rfl
    | false =>
      have hopen : (r.clocked deadline elapsed).wire.dropped = false := hdrop
      have hrest := ih (r.credited piece.length)
      rw [send_cons rest hdrop, send_cons rest hopen]
      change ((r.clocked deadline elapsed).credited piece.length).send rest = _ at hrest
      rw [hrest]
      rfl

theorem outward_clocked :
    (r.clocked deadline elapsed).outward = reclock deadline elapsed r.outward :=
  r.emptied.send_clocked deadline elapsed r.outgoing

theorem handOver_clocked (payload : Bytes) :
    (r.clocked deadline elapsed).handOver payload
      = (r.handOver payload).map (reclock deadline elapsed) := by
  have happ : (r.clocked deadline elapsed).app = r.app := rfl
  unfold handOver
  rw [happ]
  cases deliver r.app payload <;> rfl

theorem react_clocked (message : Option Message) :
    (r.clocked deadline elapsed).react message = reclock deadline elapsed (r.react message) := by
  have hwire : (r.clocked deadline elapsed).wire = r.wire := rfl
  unfold react
  rw [hwire]
  split <;> (try split) <;> rfl

theorem readNext_clocked :
    (r.clocked deadline elapsed).readNext = r.readNext.map (reclock deadline elapsed) := by
  have hwire : (r.clocked deadline elapsed).wire = r.wire := rfl
  have hpending : (r.clocked deadline elapsed).pending = r.pending := rfl
  have hlimits : (r.clocked deadline elapsed).limits = r.limits := rfl
  unfold readNext
  rw [hwire, hpending, hlimits]
  cases Intake.read r.limits r.pending r.wire.unread with
  | incomplete =>
    simp only [Option.map_if]
    rfl
  | broken fault => rfl
  | frame pending message rest =>
    exact congrArg some ((r.past pending rest).react_clocked deadline elapsed message)

theorem takeIn_clocked :
    (r.clocked deadline elapsed).takeIn = r.takeIn.map (reclock deadline elapsed) := by
  have hheld : (r.clocked deadline elapsed).held = r.held := rfl
  unfold takeIn
  rw [hheld]
  cases r.held with
  | some payload => exact r.handOver_clocked deadline elapsed payload
  | none => exact r.readNext_clocked deadline elapsed

/-- What goes on the same with another clock does so after a step as well. -/
theorem andThen_clocked {next : Relay → Relay × Traffic} (x : Relay × Traffic)
    (hnext : x.1.cause = none →
      next (x.1.clocked deadline elapsed) = reclock deadline elapsed (next x.1)) :
    andThen (reclock deadline elapsed x) next = reclock deadline elapsed (andThen x next) := by
  have hsame : (reclock deadline elapsed x).1.cause = x.1.cause := rfl
  unfold andThen
  rw [hsame]
  cases hcause : x.1.cause with
  | some cause => rfl
  | none =>
    rw [reclock_fst, hnext hcause]
    rfl

theorem inward_clocked :
    (r.clocked deadline elapsed).inward = reclock deadline elapsed r.inward := by
  -- on what is left to do, since both relays make the same moves
  induction hn : r.backlog using Nat.strongRecOn generalizing r with
  | _ n ih =>
    subst hn
    have htake := r.takeIn_clocked deadline elapsed
    cases hmove : r.takeIn with
    | none =>
      rw [hmove] at htake
      rw [inward_none hmove, inward_none htake]
      rfl
    | some next =>
      rw [hmove] at htake
      rw [inward_some hmove, inward_some htake]
      exact andThen_clocked deadline elapsed next fun hrun =>
        ih _ (takeIn_backlog hmove hrun) next.1 rfl

/-- What a relay does before it looks at the clock is the same with another clock. -/
theorem exchange_clocked :
    (r.clocked deadline elapsed).exchange = reclock deadline elapsed r.exchange := by
  unfold exchange
  rw [outward_clocked]
  exact andThen_clocked deadline elapsed r.outward fun _ =>
    r.outward.1.inward_clocked deadline elapsed

/-- Of all events only the clock has to do with the clock. -/
theorem absorb_clocked (e : Event) :
    (r.clocked deadline elapsed).absorb e = (r.absorb e).clocked deadline (elapsed + e.span) := by
  cases e with
  | remoteBytes data =>
    have hwire : (r.clocked deadline elapsed).wire = r.wire := rfl
    simp only [absorb, hwire]
    split <;> rfl
  | _ => rfl

end Clock

theorem exchange_moves {r : Relay} (hrun : r.cause = none) : Moves r r.exchange.2 r.exchange.1 :=
  andThen_moves (outward_moves hrun) fun h => inward_moves h

theorem absorb_deadline (r : Relay) (e : Event) : (r.absorb e).deadline = r.deadline := by
  rw [absorb_eq]

theorem absorb_elapsed (r : Relay) (e : Event) : (r.absorb e).elapsed = r.elapsed + e.span := by
  have h := r.absorb_clocked r.deadline r.elapsed e
  exact congrArg Relay.elapsed h

theorem step_deadline (r : Relay) (e : Event) : (r.step e).1.deadline = r.deadline := by
  by_cases hrun : r.cause = none
  · by_cases he : e = .cancel
    · rw [he, step_cancel hrun]
      rfl
    · have habsorbed : (r.absorb e).cause = none := by rw [absorb_cause, hrun]
      rw [step_settle hrun he, (settle_moves habsorbed).keeps.deadline, absorb_deadline]
  · rw [step_ended hrun]

/-! ### Relays without a limit -/

/-- A relay without a limit does not look at the clock. -/
theorem settle_unlimited {r : Relay} (h : r.cause = none) (hlimit : r.deadline = none) :
    r.settle = r.exchange := by
  rw [settle_exchange]
  have hkeeps := (exchange_moves h).keeps
  have hexpire : r.exchange.1.expire = (r.exchange.1, Traffic.none) := by
    unfold expire
    rw [hkeeps.deadline, hlimit]
  unfold andThen
  cases hcause : r.exchange.1.cause with
  | some cause => rfl
  | none =>
    simp only [hexpire, Traffic.followedBy_none]

/-- A relay without a limit goes on the same whatever its clock says. -/
theorem settle_unlimited_clocked {r : Relay} (hrun : r.cause = none) (hlimit : r.deadline = none)
    (elapsed : Duration) : (r.clocked none elapsed).settle = reclock none elapsed r.settle := by
  have hother : (r.clocked none elapsed).cause = none := hrun
  rw [settle_unlimited hrun hlimit, settle_unlimited hother rfl, exchange_clocked]

/-- A relay without a limit that waits has nothing to do about the clock. -/
theorem Settled.step_advance {r : Relay} (h : Settled r) (hrun : r.cause = none)
    (hlimit : r.deadline = none) (span : Duration) :
    r.step (.advance span) = (r.clocked none (r.elapsed + span), Traffic.none) := by
  have hcancel : Event.advance span ≠ .cancel := nofun
  have habsorb : r.absorb (.advance span) = r.clocked none (r.elapsed + span) := by
    rw [← hlimit]
    rfl
  rw [step_settle hrun hcancel, habsorb, settle_unlimited_clocked hrun hlimit, h.settle hrun]
  rfl

/-- Relays without a limit that have sent the same and differ at most in how long they have
lasted. -/
structure Synchronous (x y : Relay × Traffic) : Prop where
  unlimited : x.1.deadline = none
  same : ∃ elapsed, y = reclock none elapsed x

namespace Synchronous

variable {x y : Relay × Traffic}

theorem refl (h : x.1.deadline = none) : Synchronous x x :=
  ⟨h, x.1.elapsed, by rw [← h]; rfl⟩

theorem traffic (h : Synchronous x y) : y.2 = x.2 := by
  obtain ⟨-, elapsed, rfl⟩ := h
  rfl

theorem cause (h : Synchronous x y) : y.1.cause = x.1.cause := by
  obtain ⟨-, elapsed, rfl⟩ := h
  rfl

theorem result (h : Synchronous x y) : y.1.result? = x.1.result? := by
  obtain ⟨-, elapsed, rfl⟩ := h
  rfl

/-- The same event does the same to both. -/
theorem step (h : Synchronous x y) (e : Event) :
    Synchronous ((x.1.step e).1, x.2.followedBy (x.1.step e).2)
      ((y.1.step e).1, y.2.followedBy (y.1.step e).2) := by
  refine ⟨(step_deadline x.1 e).trans h.unlimited, ?_⟩
  obtain ⟨hlimit, elapsed, rfl⟩ := h
  rw [reclock_fst]
  by_cases hrun : x.1.cause = none
  · have hother : (x.1.clocked none elapsed).cause = none := hrun
    by_cases he : e = .cancel
    · rw [he, step_cancel hrun, step_cancel hother]
      exact ⟨elapsed, rfl⟩
    · have habsorbed : (x.1.absorb e).cause = none := by rw [absorb_cause, hrun]
      have hstill : (x.1.absorb e).deadline = none := (absorb_deadline x.1 e).trans hlimit
      rw [step_settle hrun he, step_settle hother he, absorb_clocked,
        settle_unlimited_clocked habsorbed hstill]
      exact ⟨elapsed + e.span, rfl⟩
  · have hother : (x.1.clocked none elapsed).cause ≠ none := hrun
    rw [step_ended hrun, step_ended hother]
    exact ⟨elapsed, rfl⟩

/-- Time that passes for one of them makes no difference. -/
theorem step_advance (h : Synchronous x y) (hrest : y.1.cause = none → Settled y.1)
    (span : Duration) :
    Synchronous x ((y.1.step (.advance span)).1, y.2.followedBy (y.1.step (.advance span)).2) := by
  refine ⟨h.unlimited, ?_⟩
  have hsame := h.same
  have hlimit : y.1.deadline = none := by
    obtain ⟨-, elapsed, rfl⟩ := h
    rfl
  by_cases hrun : y.1.cause = none
  · rw [(hrest hrun).step_advance hrun hlimit, Traffic.followedBy_none]
    obtain ⟨elapsed, rfl⟩ := hsame
    exact ⟨elapsed + span, rfl⟩
  · rw [step_ended hrun, Traffic.followedBy_none]
    exact hsame

/-- A script may be followed without the clock. -/
theorem run (h : Synchronous x y) (hrest : y.1.cause = none → Settled y.1) (es : List Event) :
    Synchronous ((x.1.run (es.filter (!·.isAdvance))).1,
        x.2.followedBy (x.1.run (es.filter (!·.isAdvance))).2)
      ((y.1.run es).1, y.2.followedBy (y.1.run es).2) := by
  induction es generalizing x y with
  | nil => simpa [Relay.run] using h
  | cons e es ih =>
    have hthen : ∀ {z : Relay} {t : Traffic}, (z.step e).1.cause = none →
        Settled (((z.step e).1, t.followedBy (z.step e).2) : Relay × Traffic).1 :=
      fun hrun => step_settled hrun
    cases hclock : e.isAdvance with
    | false =>
      rw [List.filter_cons_of_pos (by simp [hclock])]
      simp only [Relay.run, ← Traffic.followedBy_assoc]
      exact ih (h.step e) hthen
    | true =>
      obtain ⟨span, rfl⟩ : ∃ span, e = .advance span := by
        cases e <;> first | exact ⟨_, rfl⟩ | cases hclock
      rw [List.filter_cons_of_neg (by simp [hclock])]
      simp only [Relay.run, ← Traffic.followedBy_assoc]
      exact ih (h.step_advance hrest span) hthen

end Synchronous

/-- A session without a limit may leave the clock out. -/
theorem session_timeless {r : Relay} (hrun : r.cause = none) (hlimit : r.deadline = none)
    (script : List Event) :
    Synchronous (r.session (script.filter (!·.isAdvance))) (r.session script) := by
  have hbegun : r.settle.1.deadline = none := by
    rw [(settle_moves hrun).keeps.deadline, hlimit]
  exact (Synchronous.refl hbegun).run (fun h => settle_settled h) script

end Relay

end Carrier
