import Carrier.Proofs.Relay.Indifference
import Carrier.Proofs.Relay.Script
import Carrier.Proofs.WebSocket.Refusal
import Carrier.Proofs.WebSocket.Stream

/-!
# How octets are cut

The octets from the other end come in pieces, and a message is handed over in several writes. How
the octets are cut, and how much one write takes, makes no difference.

- `Relay.fed`: a relay to which more octets have come.
- `Relay.inward_fed`: octets that come later are taken in later.
- `Relay.run_pieces`: pieces that come one by one are taken in as a whole.
- `Relay.session_recut`: a session may cut the octets in another way.
-/

namespace Carrier

namespace Relay

/-- The relay when more octets have come. -/
def fed (r : Relay) (octets : Bytes) : Relay :=
  { r with wire := { r.wire with unread := r.wire.unread ++ octets } }

theorem fed_nil (r : Relay) : r.fed [] = r := by
  simp [fed]

theorem fed_append (r : Relay) (octets more : Bytes) :
    r.fed (octets ++ more) = (r.fed octets).fed more := by
  simp [fed]

/-! ### Octets that come later -/

theorem handOver_fed (r : Relay) (octets payload : Bytes) :
    (r.fed octets).handOver payload
      = (r.handOver payload).map fun next => (next.1.fed octets, next.2) := by
  have happ : (r.fed octets).app = r.app := rfl
  unfold handOver
  rw [happ]
  cases deliver r.app payload <;> rfl

theorem react_fed (r : Relay) (octets : Bytes) (message : Option Message) :
    (r.fed octets).react message = ((r.react message).1.fed octets, (r.react message).2) := by
  match message with
  | none => rfl
  | some (.pong payload) => rfl
  | some (.close reply) => rfl
  | some (.data kind payload) => rfl
  | some (.ping payload) =>
    have hwire : (r.fed octets).wire.dropped = r.wire.dropped := rfl
    unfold react
    simp only [hwire]
    split <;> rfl

/-- What can be taken in is taken in as well when more octets have come. -/
theorem takeIn_fed {r : Relay} {next : Relay × Traffic} (hopen : r.wire.dropped = false)
    (h : r.takeIn = some next) (octets : Bytes) :
    (r.fed octets).takeIn = some (next.1.fed octets, next.2) := by
  unfold takeIn at h ⊢
  have hsame : (r.fed octets).held = r.held := rfl
  rw [hsame]
  cases hheld : r.held with
  | some payload =>
    rw [hheld] at h
    show (r.fed octets).handOver payload = _
    rw [handOver_fed]
    exact congrArg (Option.map _) h
  | none =>
    rw [hheld] at h
    show (r.fed octets).readNext = _
    change r.readNext = some next at h
    have hunread : (r.fed octets).wire.unread = r.wire.unread ++ octets := rfl
    have hpending : (r.fed octets).pending = r.pending := rfl
    have hlimits : (r.fed octets).limits = r.limits := rfl
    unfold readNext at h ⊢
    rw [hunread, hpending, hlimits]
    cases hread : Intake.read r.limits r.pending r.wire.unread with
    | incomplete => simp [hread, hopen] at h
    -- more octets neither mend a broken frame nor change a whole one
    | broken fault =>
      rw [Intake.read_broken_append octets hread]
      simp only [hread, Option.some.injEq] at h
      subst h
      rfl
    | frame pending message rest =>
      rw [Intake.read_append octets hread]
      simp only [hread, Option.some.injEq] at h
      subst h
      exact congrArg some ((r.past pending rest).react_fed octets message)

/-- What was sent before a relay goes on stays sent. -/
theorem andThen_after (t : Traffic) (x : Relay × Traffic) (next : Relay → Relay × Traffic) :
    andThen (x.1, t.followedBy x.2) next
      = ((andThen x next).1, t.followedBy (andThen x next).2) := by
  unfold andThen
  cases x.1.cause with
  | some cause => rfl
  | none => simp only [Traffic.followedBy_assoc]

/-- Octets that come later are taken in later. -/
theorem inward_fed {r : Relay} (hrun : r.cause = none) (hopen : r.wire.dropped = false)
    (octets : Bytes) :
    (r.fed octets).inward = andThen (r.inward.1.fed octets, r.inward.2) inward := by
  induction hn : r.backlog using Nat.strongRecOn generalizing r with
  | _ n ih =>
    subst hn
    cases hmove : r.takeIn with
    | none =>
      rw [inward_none hmove]
      have hfed : (r.fed octets).cause = none := hrun
      simp [andThen, hfed]
    | some next =>
      rw [inward_some hmove, inward_some (takeIn_fed hopen hmove octets)]
      cases hcause : next.1.cause with
      | some cause =>
        have hfed : (next.1.fed octets).cause = some cause := hcause
        simp [andThen, hcause, hfed]
      | none =>
        have hfed : (next.1.fed octets).cause = none := hcause
        have hstill : next.1.wire.dropped = false := by
          rw [(takeIn_move hmove).keeps.dropped]
          exact hopen
        -- the rest of the moves by the hypothesis, with the first move's traffic before it
        have hlater := ih _ (takeIn_backlog hmove hcause) hcause hstill rfl
        have hboth : andThen next inward = (next.1.inward.1, next.2.followedBy next.1.inward.2) := by
          simp [andThen, hcause]
        rw [hboth]
        show _ = andThen ((next.1.inward.1.fed octets, next.1.inward.2).1, _) inward
        rw [andThen_after, ← hlater]
        simp [andThen, hfed]

/-! ### Pieces -/

/-- A relay that waits takes in the octets that come. -/
theorem Settled.step_remoteBytes {r : Relay} (hrun : r.cause = none) (h : Settled r)
    (hopen : r.wire.dropped = false) (octets : Bytes) :
    r.step (.remoteBytes octets) = (r.fed octets).inward := by
  have hcancel : Event.remoteBytes octets ≠ .cancel := nofun
  have habsorb : r.absorb (.remoteBytes octets) = r.fed octets := by
    simp [absorb, hopen, fed]
  rw [step_settle hrun hcancel, habsorb]
  exact settle_inward hrun h.sent h.unended h.inTime

/-- A relay that waits has nothing to do about octets when the other end has gone. -/
theorem Settled.step_remoteBytes_dropped {r : Relay} (hrun : r.cause = none) (h : Settled r)
    (hdrop : r.wire.dropped = true) (octets : Bytes) :
    r.step (.remoteBytes octets) = (r, Traffic.none) := by
  have hcancel : Event.remoteBytes octets ≠ .cancel := nofun
  have habsorb : r.absorb (.remoteBytes octets) = r := by
    simp [absorb, hdrop]
  rw [step_settle hrun hcancel, habsorb]
  exact h.settle hrun

/-- Pieces that come one by one are taken in as a whole. -/
theorem run_pieces {r : Relay} (hrun : r.cause = none) (h : Settled r)
    (hopen : r.wire.dropped = false) (pieces : List Bytes) :
    Alike (r.fed pieces.flatten).inward (r.run (pieces.map .remoteBytes)) := by
  induction pieces generalizing r with
  | nil =>
    rw [List.flatten_nil, fed_nil, inward_none h.idle]
    exact .refl _
  | cons piece rest ih =>
    have hfed : (r.fed piece).cause = none := hrun
    have hstep := h.step_remoteBytes hrun hopen piece
    rw [List.flatten_cons, fed_append, inward_fed hfed hopen, ← hstep]
    simp only [List.map_cons, run]
    cases hcause : (r.step (.remoteBytes piece)).1.cause with
    | some cause =>
      -- what comes after the end is left
      have hend : (r.step (.remoteBytes piece)).1.cause ≠ none := by
        rw [hcause]
        exact Option.some_ne_none cause
      rw [run_ended hend, Traffic.followedBy_none]
      have hstay : ((r.step (.remoteBytes piece)).1.fed rest.flatten).cause = some cause := hcause
      simp only [andThen, hstay]
      exact ⟨fun hnone => absurd hnone hend, rfl, rfl, rfl⟩
    | none =>
      have hstill : (r.step (.remoteBytes piece)).1.wire.dropped = false := by
        rw [hstep, (inward_moves hfed).keeps.dropped]
        exact hopen
      have hgo : ((r.step (.remoteBytes piece)).1.fed rest.flatten).cause = none := hcause
      simp only [andThen, hgo]
      exact (Alike.refl (r.step (.remoteBytes piece))).after
        (ih hcause (step_settled hcause) hstill)

/-- Octets may come in other pieces. -/
theorem run_repieced {r : Relay} (hrest : r.cause = none → Settled r) {pieces others : List Bytes}
    (hsame : pieces.flatten = others.flatten) :
    Alike (r.run (pieces.map .remoteBytes)) (r.run (others.map .remoteBytes)) := by
  by_cases hrun : r.cause = none
  · cases hopen : r.wire.dropped with
    | false =>
      have hpieces := run_pieces hrun (hrest hrun) hopen pieces
      have hothers := run_pieces hrun (hrest hrun) hopen others
      rw [← hsame] at hothers
      exact hpieces.symm.trans hothers
    | true =>
      have hnothing : ∀ octets : List Bytes,
          r.run (octets.map .remoteBytes) = (r, Traffic.none) := by
        intro octets
        induction octets with
        | nil => rfl
        | cons piece rest ih =>
          simp only [List.map_cons, run, (hrest hrun).step_remoteBytes_dropped hrun hopen, ih,
            Traffic.none_followedBy]
      rw [hnothing, hnothing]
      exact .refl _
  · rw [run_ended hrun, run_ended hrun]
    exact .refl _

/-! ### Scripts -/

/-- The octets of a script that says only how they come and how much a write takes. -/
theorem filter_pieces {cut : List Event}
    (hcut : ∀ e ∈ cut, (∃ data, e = .remoteBytes data) ∨ ∃ limit, e = .localWriteLimit limit) :
    ∃ pieces : List Bytes, cut.filter (!·.isTuning) = pieces.map .remoteBytes ∧
      pieces.flatten = cut.flatMap Event.octets := by
  induction cut with
  | nil => exact ⟨[], rfl, rfl⟩
  | cons e rest ih =>
    obtain ⟨pieces, hfilter, hflatten⟩ := ih fun f hf => hcut f (List.mem_cons_of_mem e hf)
    rcases hcut e List.mem_cons_self with ⟨data, rfl⟩ | ⟨limit, rfl⟩
    · refine ⟨data :: pieces, ?_, ?_⟩
      · rw [List.filter_cons_of_pos rfl, hfilter, List.map_cons]
      · rw [List.flatten_cons, hflatten, List.flatMap_cons]
        rfl
    · refine ⟨pieces, ?_, hflatten⟩
      rw [List.filter_cons_of_neg (by simp [Event.isTuning]), hfilter]

/-- The octets of the other end may be cut in other ways, and the application may take messages
with other writes: what is sent to the other end, the octets that the application takes and the
result are the same, whatever happens before and after. -/
theorem session_recut (limits : Limits) (deadline : Option Duration)
    {front cut recut more : List Event}
    (hcut : ∀ e ∈ cut, (∃ data, e = .remoteBytes data) ∨ ∃ limit, e = .localWriteLimit limit)
    (hrecut : ∀ e ∈ recut, (∃ data, e = .remoteBytes data) ∨ ∃ limit, e = .localWriteLimit limit)
    (hsame : cut.flatMap Event.octets = recut.flatMap Event.octets) :
    let begun : Relay := { limits := limits, deadline := deadline }
    let here := begun.session (front ++ cut ++ more)
    let there := begun.session (front ++ recut ++ more)
    there.1.result? = here.1.result? ∧ there.2.frames = here.2.frames ∧
      there.2.delivered = here.2.delivered := by
  intro begun here there
  have hrest : (begun.session front).1.cause = none → Settled (begun.session front).1 :=
    fun hrun => session_settled hrun
  obtain ⟨pieces, hpieces, hoctets⟩ := filter_pieces hcut
  obtain ⟨others, hothers, hoctets'⟩ := filter_pieces hrecut
  have htuning : ∀ e : Event, (!e.isTuning) = false → e.isTuning = true := by simp
  -- each script is compared with the one that only says how its octets come
  have hmiddle : Alike (begun.session (front ++ cut)) (begun.session (front ++ recut)) := by
    have hhere := (Alike.refl (begun.session front)).run_filter htuning hrest cut
    have hthere := (Alike.refl (begun.session front)).run_filter htuning hrest recut
    rw [hpieces] at hhere
    rw [hothers] at hthere
    have hfed := run_repieced hrest (hoctets.trans (hsame.trans hoctets'.symm))
    rw [session_append, session_append]
    exact hhere.symm.trans (((Alike.refl (begun.session front)).after hfed).trans hthere)
  have halike : Alike here there := by
    show Alike (begun.session (front ++ cut ++ more)) (begun.session (front ++ recut ++ more))
    rw [session_append begun (front ++ cut), session_append begun (front ++ recut)]
    exact hmiddle.run more
  exact ⟨halike.result, halike.frames, halike.delivered⟩

/-- A message that comes octet by octet and is handed over octet by octet. -/
theorem session_recut_octets :
    let cut : List Event := [.localWriteLimit 1, .remoteBytes [0x82], .remoteBytes [2],
      .remoteBytes [104], .remoteBytes [105]]
    let recut : List Event := [.remoteBytes [0x82, 2, 104, 105]]
    let begun : Relay := { limits := {}, deadline := none }
    let here := begun.session ([] ++ cut ++ [.remoteDrop])
    let there := begun.session ([] ++ recut ++ [.remoteDrop])
    (there.1.result? = here.1.result? ∧ there.2.frames = here.2.frames ∧
      there.2.delivered = here.2.delivered) ∧
    here.2.writes = [[104], [105]] ∧ there.2.writes = [[104, 105]] := by
  intro cut recut begun here there
  refine ⟨session_recut {} none (by simp [cut]) (by simp [recut]) (by decide), ?_, ?_⟩
  · decide +kernel
  · decide +kernel

end Relay

end Carrier
