import Carrier.Relay.Run

/-!
# What a relay does by itself

Between two events a relay makes a number of moves: it sends what the application wrote, reads a
frame, hands a message over, or ends.

- `Relay.Ends`: the causes for which a relay may end in a state.
- `Relay.Move`: one move, with its traffic.
- `Relay.Moves`: a sequence of moves.
- `Relay.settle_moves`: settling is such a sequence.
-/

namespace Carrier

namespace Relay

/-! ### Moves -/

/-- What the application wrote, cut into the payloads of frames. -/
def outgoing (r : Relay) : List Bytes := r.app.unread.flatMap (Bytes.pieces chunkSize)

/-- The relay when all that the application wrote has been taken. -/
def emptied (r : Relay) : Relay := { r with app := { r.app with unread := [] } }

/-- The relay when `n` more octets have been sent. -/
def credited (r : Relay) (n : Nat) : Relay := { r with toRemote := r.toRemote + n }

/-- The frame that a relay without a waiting message reads next. -/
def Reads (r : Relay) (pending : Option Fragments) (message : Option Message) (rest : Bytes) :
    Prop :=
  r.held = none ∧ Intake.read r.limits r.pending r.wire.unread = .frame pending message rest

/-- `r.Ends cause writes s`: the relay `r` may end for `cause`, after `writes` that the application
took and in the state `s`. -/
inductive Ends (r : Relay) : Cause → List Bytes → Relay → Prop where
  | localEof (hsent : r.app.unread = []) (hend : r.app.readEnd = some .eof) :
    Ends r .localEof [] r
  | localReadFailed {fault : IoFault} (hsent : r.app.unread = [])
    (hend : r.app.readEnd = some (.failed fault)) : Ends r (.localReadFailed fault) [] r
  | sendFailed (hout : r.outgoing ≠ []) (hdrop : r.wire.dropped = true) :
    Ends r (.remoteSendFailed sendFault) [] r.emptied
  | writeFailed {payload : Bytes} {fault : IoFault} {writes : List Bytes}
    (hheld : r.held = some payload) (hdel : deliver r.app payload = .failed fault writes) :
    Ends r (.localWriteFailed fault) writes { r with held := none }
  | transportEnded (hheld : r.held = none)
    (hread : Intake.read r.limits r.pending r.wire.unread = .incomplete)
    (hdrop : r.wire.dropped = true) :
    Ends r (.remoteReadFailed (.protocol .resetWithoutClose)) [] r
  | broken {fault : SocketFault} (hheld : r.held = none)
    (hread : Intake.read r.limits r.pending r.wire.unread = .broken fault) :
    Ends r (.remoteReadFailed fault) [] r
  | pongFailed {pending : Option Fragments} {payload rest : Bytes}
    (hread : r.Reads pending (some (.ping payload)) rest) (hdrop : r.wire.dropped = true) :
    Ends r (.remoteReadFailed sendFault) [] (r.past pending rest)
  | remoteClosed {pending : Option Fragments} {reply rest : Bytes}
    (hread : r.Reads pending (some (.close reply)) rest) :
    Ends r (.remoteClosed reply) [] (r.past pending rest)
  | deadline {limit : Duration} (hlimit : r.deadline = some limit) (hle : limit ≤ r.elapsed) :
    Ends r (.deadline limit) [] r

/-- One move of a relay. -/
inductive Move (r : Relay) : Traffic → Relay → Prop where
  | sent (hopen : r.wire.dropped = false ∨ r.outgoing = []) :
    Move r ⟨r.outgoing.map (Frame.whole .binary), []⟩
      (r.emptied.credited r.outgoing.flatten.length)
  | skipped {pending : Option Fragments} {message : Option Message} {rest : Bytes}
    (hread : r.Reads pending message rest)
    (hnone : message = none ∨ ∃ payload, message = some (.pong payload)) :
    Move r Traffic.none (r.past pending rest)
  | answered {pending : Option Fragments} {payload rest : Bytes}
    (hread : r.Reads pending (some (.ping payload)) rest) (hopen : r.wire.dropped = false) :
    Move r (Traffic.frame (.whole .pong payload)) (r.past pending rest)
  | received {pending : Option Fragments} {kind : DataKind} {payload rest : Bytes}
    (hread : r.Reads pending (some (.data kind payload)) rest) :
    Move r Traffic.none { r.past pending rest with held := some payload }
  | handed {payload : Bytes} {writes : List Bytes} (hheld : r.held = some payload)
    (hdel : deliver r.app payload = .done writes) :
    Move r (Traffic.written writes) { r with held := none, toLocal := r.toLocal + payload.length }
  | ended {cause : Cause} {writes : List Bytes} {s : Relay} (hend : r.Ends cause writes s) :
    Move r ((Traffic.written writes).followedBy (s.finish cause).2) (s.finish cause).1

/-- Moves one after the other, as long as the relay has not ended. -/
inductive Moves : Relay → Traffic → Relay → Prop where
  | refl (r : Relay) : Moves r Traffic.none r
  | next {r s q : Relay} {t u : Traffic} (hrun : r.cause = none) (hmove : Move r t s)
    (hrest : Moves s u q) : Moves r (t.followedBy u) q

theorem Moves.single {r s : Relay} {t : Traffic} (hrun : r.cause = none) (h : Move r t s) :
    Moves r t s := by
  have := Moves.next hrun h (Moves.refl s)
  rwa [Traffic.followedBy_none] at this

theorem Moves.trans {r s q : Relay} {t u : Traffic} (h₁ : Moves r t s) (h₂ : Moves s u q) :
    Moves r (t.followedBy u) q := by
  induction h₁ with
  | refl r => exact h₂
  | next hrun hmove hrest ih =>
    rw [Traffic.followedBy_assoc]
    exact Moves.next hrun hmove (ih h₂)

/-! ### Settling is a sequence of moves -/

theorem send_cons {r : Relay} {piece : Bytes} (rest : List Bytes) (hopen : r.wire.dropped = false) :
    r.send (piece :: rest) =
      (((r.credited piece.length).send rest).1,
        (Traffic.frame (.whole .binary piece)).followedBy
          ((r.credited piece.length).send rest).2) := by
  simp [send, hopen, credited]

/-- Sending goes through all the pieces unless the transport is gone. -/
theorem send_eq (r : Relay) (pieces : List Bytes) (h : r.wire.dropped = false ∨ pieces = []) :
    r.send pieces =
      (((r.credited pieces.flatten.length).send []).1,
       (⟨pieces.map (Frame.whole .binary), []⟩ : Traffic).followedBy
         ((r.credited pieces.flatten.length).send []).2) := by
  induction pieces generalizing r with
  | nil => rfl
  | cons piece rest ih =>
    have hopen : r.wire.dropped = false := by simpa using h
    have hcredit : (r.credited piece.length).credited rest.flatten.length
        = r.credited (piece :: rest).flatten.length := by
      simp [credited, Nat.add_assoc]
    rw [send_cons rest hopen, ih (r.credited piece.length) (.inl hopen), hcredit]
    rfl

theorem send_dropped (r : Relay) (pieces : List Bytes) (h : r.wire.dropped = true)
    (hne : pieces ≠ []) : r.send pieces = r.finish (.remoteSendFailed sendFault) := by
  cases pieces with
  | nil => exact absurd rfl hne
  | cons piece rest => simp [send, h]

theorem send_nil_moves {r : Relay} (hrun : r.cause = none) (hsent : r.app.unread = []) :
    Moves r (r.send []).2 (r.send []).1 := by
  cases hend : r.app.readEnd with
  | none =>
    have hsend : r.send [] = (r, Traffic.none) := by simp [send, hend]
    rw [hsend]
    exact Moves.refl r
  | some how =>
    cases how with
    | eof =>
      have hsend : r.send [] = r.finish .localEof := by simp [send, hend]
      rw [hsend]
      exact Moves.single hrun (.ended (.localEof hsent hend))
    | failed fault =>
      have hsend : r.send [] = r.finish (.localReadFailed fault) := by simp [send, hend]
      rw [hsend]
      exact Moves.single hrun (.ended (.localReadFailed hsent hend))

theorem outward_moves {r : Relay} (hrun : r.cause = none) :
    Moves r r.outward.2 r.outward.1 := by
  show Moves r (r.emptied.send r.outgoing).2 (r.emptied.send r.outgoing).1
  by_cases hopen : r.wire.dropped = false ∨ r.outgoing = []
  · rw [send_eq r.emptied r.outgoing hopen]
    exact Moves.next hrun (.sent hopen) (send_nil_moves hrun rfl)
  · rw [not_or, Bool.not_eq_false] at hopen
    rw [send_dropped r.emptied r.outgoing hopen.1 hopen.2]
    exact Moves.single hrun (.ended (.sendFailed hopen.2 hopen.1))

theorem handOver_move {r : Relay} {payload : Bytes} {next : Relay × Traffic}
    (hheld : r.held = some payload) (h : r.handOver payload = some next) :
    Move r next.2 next.1 := by
  unfold handOver at h
  cases hdel : deliver r.app payload with
  | blocked => simp [hdel] at h
  | failed fault writes =>
    simp only [hdel, Option.some.injEq] at h
    subst h
    exact .ended (.writeFailed hheld hdel)
  | done writes =>
    simp only [hdel, Option.some.injEq] at h
    subst h
    exact .handed hheld hdel

theorem Ends.move {r s : Relay} {cause : Cause} (h : r.Ends cause [] s) :
    Move r (s.finish cause).2 (s.finish cause).1 := by
  have := Move.ended h
  rwa [Traffic.written_nil, Traffic.none_followedBy] at this

theorem react_move {r : Relay} {pending : Option Fragments} {message : Option Message}
    {rest : Bytes} (hread : r.Reads pending message rest) :
    Move r ((r.past pending rest).react message).2 ((r.past pending rest).react message).1 := by
  match message, hread with
  | none, hread => exact .skipped hread (.inl rfl)
  | some (.pong payload), hread => exact .skipped hread (.inr ⟨payload, rfl⟩)
  | some (.ping payload), hread =>
    cases hdrop : r.wire.dropped with
    | true =>
      have hreact : (r.past pending rest).react (some (.ping payload))
          = (r.past pending rest).finish (.remoteReadFailed sendFault) := by
        simp [react, past, hdrop]
      rw [hreact]
      exact (Ends.pongFailed hread hdrop).move
    | false =>
      have hreact : (r.past pending rest).react (some (.ping payload))
          = (r.past pending rest, Traffic.frame (.whole .pong payload)) := by
        simp [react, past, hdrop]
      rw [hreact]
      exact .answered hread hdrop
  | some (.close reply), hread => exact (Ends.remoteClosed hread).move
  | some (.data kind payload), hread => exact .received hread

theorem readNext_move {r : Relay} {next : Relay × Traffic} (hheld : r.held = none)
    (h : r.readNext = some next) : Move r next.2 next.1 := by
  unfold readNext at h
  cases hread : Intake.read r.limits r.pending r.wire.unread with
  | incomplete =>
    simp only [hread, Option.ite_none_right_eq_some, Option.some.injEq] at h
    obtain ⟨hdrop, rfl⟩ := h
    exact (Ends.transportEnded hheld hread hdrop).move
  | broken fault =>
    simp only [hread, Option.some.injEq] at h
    subst h
    exact (Ends.broken hheld hread).move
  | frame pending message rest =>
    simp only [hread, Option.some.injEq] at h
    subst h
    exact react_move ⟨hheld, hread⟩

theorem takeIn_move {r : Relay} {next : Relay × Traffic} (h : r.takeIn = some next) :
    Move r next.2 next.1 := by
  unfold takeIn at h
  cases hheld : r.held with
  | some payload =>
    rw [hheld] at h
    exact handOver_move hheld h
  | none =>
    rw [hheld] at h
    exact readNext_move hheld h

theorem inward_moves {r : Relay} (hrun : r.cause = none) : Moves r r.inward.2 r.inward.1 := by
  fun_induction inward r with
  | case1 r hmove => exact Moves.refl r
  | case2 r next first hmove cause hcause => exact Moves.single hrun (takeIn_move hmove)
  | case3 r next first hmove hcause after rest hinward ih =>
    have := ih hcause
    rw [hinward] at this
    exact Moves.next hrun (takeIn_move hmove) this

theorem expire_moves {r : Relay} (hrun : r.cause = none) : Moves r r.expire.2 r.expire.1 := by
  unfold expire
  cases hlimit : r.deadline with
  | none => exact Moves.refl r
  | some limit =>
    by_cases hle : limit ≤ r.elapsed
    · simp only [if_pos hle]
      exact Moves.single hrun (Ends.deadline hlimit hle).move
    · simp only [if_neg hle]
      exact Moves.refl r

theorem andThen_moves {r : Relay} {first : Relay × Traffic} {next : Relay → Relay × Traffic}
    (hfirst : Moves r first.2 first.1)
    (hnext : first.1.cause = none → Moves first.1 (next first.1).2 (next first.1).1) :
    Moves r (andThen first next).2 (andThen first next).1 := by
  unfold andThen
  cases hcause : first.1.cause with
  | some cause => exact hfirst
  | none => exact hfirst.trans (hnext hcause)

/-- Settling is a sequence of moves. -/
theorem settle_moves {r : Relay} (hrun : r.cause = none) : Moves r r.settle.2 r.settle.1 :=
  andThen_moves (andThen_moves (outward_moves hrun) fun h => inward_moves h)
    fun h => expire_moves h

end Relay

end Carrier
