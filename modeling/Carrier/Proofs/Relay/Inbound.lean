import Carrier.Proofs.Relay.Flushing
import Carrier.Proofs.Relay.Script
import Carrier.Proofs.Relay.Teardown
import Carrier.Proofs.WebSocket.Stream
import Mathlib.Data.List.Infix

/-!
# From the other end to the application

What a relay writes to the application is the payloads of the messages that have come, in order.

- `Relay.Stands`: a place in what has come, behind the messages that were handed over and behind
  the one that waits.
- `Relay.Stopped`: how a relay stops at such a place.
- `Relay.Inbound`: the place of every relay.
- `Relay.session_delivered`: what the application has, throughout every session.
-/

namespace Carrier

namespace Relay

/-! ### Places in what has come -/

/-- `Stands limits es n writes done waiting p rest`: after the script `es`, the messages `done`
have been handed over in `writes` and their `n` octets counted, the messages `waiting` come next,
and behind them the fragments `p` are open and the octets `rest` are left. -/
structure Stands (limits : Limits) (es : List Event) (n : Nat) (writes done waiting : List Bytes)
    (p : Option Fragments) (rest : Bytes) : Prop where
  written : writes.flatten = done.flatten
  counted : n = done.flatten.length
  passes : Passes limits none (Event.arrived es) (done ++ waiting) p rest

/-- `Stopped limits cause waiting failed p rest`: a relay may end for `cause` at a place where
`waiting` comes next, of which the writes `failed` have been made. -/
structure Stopped (limits : Limits) (cause : Cause) (waiting failed : List Bytes)
    (p : Option Fragments) (rest : Bytes) : Prop where
  failed_start : failed.flatten <+: waiting.flatten
  failed_cause : failed ≠ [] → ∃ fault, cause = .localWriteFailed fault
  closed : ∀ reply, cause = .remoteClosed reply →
    waiting = [] ∧ ∃ q after, Intake.read limits p rest = .frame q (some (.close reply)) after

section Places

variable {limits : Limits} {es : List Event} {n : Nat} {writes done waiting failed : List Bytes}
  {p : Option Fragments} {rest : Bytes} {cause : Cause}

theorem Stands.incoming (h : Stands limits es n writes done waiting p rest) :
    incoming limits none (Event.arrived es) = done ++ waiting ++ Carrier.incoming limits p rest :=
  h.passes.incoming

/-- Later events only add octets behind a place. -/
theorem Stands.append (h : Stands limits es n writes done waiting p rest) (more : List Event) :
    ∃ octets, Stands limits (es ++ more) n writes done waiting p (rest ++ octets) := by
  obtain ⟨octets, hoctets⟩ := Event.arrived_mono es more
  refine ⟨octets, h.written, h.counted, ?_⟩
  rw [← hoctets]
  exact h.passes.append octets

/-- A relay may end at any place without any writes, unless the other end closed. -/
theorem Stopped.unwritten (h : ∀ reply, cause ≠ .remoteClosed reply) :
    Stopped limits cause waiting [] p rest :=
  ⟨List.nil_prefix, fun hne => absurd rfl hne, fun reply hreply => absurd hreply (h reply)⟩

theorem Stopped.append (h : Stopped limits cause waiting failed p rest) (octets : Bytes) :
    Stopped limits cause waiting failed p (rest ++ octets) where
  failed_start := h.failed_start
  failed_cause := h.failed_cause
  closed reply hreply := by
    obtain ⟨hnil, q, after, hread⟩ := h.closed reply hreply
    exact ⟨hnil, q, after ++ octets, Intake.read_append octets hread⟩

end Places

/-! ### Events -/

/-- Octets that an event brings are left until they are read, unless the transport is gone. -/
theorem absorb_unread (r : Relay) (e : Event) :
    (r.absorb e).wire.unread
      = r.wire.unread ++ if r.wire.dropped then [] else e.octets := by
  cases e with
  | remoteBytes data =>
    simp only [absorb]
    split <;> simp [Event.octets]
  | _ => simp [absorb, Event.octets]

/-! ### The place of a relay -/

/-- Where a relay stands in what has come after the script `es`, with the traffic `t`. -/
structure Inbound (limits : Limits) (es : List Event) (q : Relay) (t : Traffic) : Prop where
  limits_eq : q.limits = limits
  dropped : q.cause = none → (q.wire.dropped = true ↔ .remoteDrop ∈ es)
  running : q.cause = none → ∃ done,
    Stands limits es q.toLocal t.writes done q.held.toList q.pending q.wire.unread
  ended : ∀ cause, q.cause = some cause → ∃ done waiting writes failed p rest,
    Stands limits es q.toLocal writes done waiting p rest ∧
      t.writes = writes ++ failed ∧ Stopped limits cause waiting failed p rest

namespace Inbound

variable {limits : Limits} {es : List Event} {q s : Relay} {t : Traffic}

/-- A relay may go on to another place. -/
theorem advance (h : Inbound limits es q t) (hrun : q.cause = none) (hkeeps : q.Keeps s)
    (hcause : s.cause = q.cause) {u : Traffic} (done : List Bytes)
    (hplace : Stands limits es s.toLocal u.writes done s.held.toList s.pending s.wire.unread) :
    Inbound limits es s u where
  limits_eq := hkeeps.limits.trans h.limits_eq
  dropped _ := by
    rw [hkeeps.dropped]
    exact h.dropped hrun
  running _ := ⟨done, hplace⟩
  ended cause hc := by
    rw [hcause, hrun] at hc
    cases hc

/-- A relay may end at the place where it stands. -/
theorem finish (h : Inbound limits es q t) (hrun : q.cause = none) (hkeeps : q.Keeps s)
    (hcount : s.toLocal = q.toLocal) {cause : Cause} {failed : List Bytes}
    (hstop : Stopped limits cause q.held.toList failed q.pending q.wire.unread) :
    Inbound limits es (s.finish cause).1
      (t.followedBy ((Traffic.written failed).followedBy (s.finish cause).2)) where
  limits_eq := hkeeps.limits.trans h.limits_eq
  dropped hc := by cases hc
  running hc := by cases hc
  ended c hc := by
    cases hc
    obtain ⟨done, hplace⟩ := h.running hrun
    refine ⟨done, q.held.toList, t.writes, failed, q.pending, q.wire.unread, ?_, ?_, hstop⟩
    · show Stands limits es s.toLocal _ _ _ _ _
      rw [hcount]
      exact hplace
    · simp [Traffic.written]

/-- A frame that does not close takes the relay on. -/
theorem past (h : Inbound limits es q t) (hrun : q.cause = none) {u : Traffic}
    {pending : Option Fragments} {message : Option Message} {rest : Bytes} {held : Option Bytes}
    (hread : q.Reads pending message rest) (hclose : ∀ reply, message ≠ some (.close reply))
    (hheld : held.toList = completed message) (hwrites : u.writes = []) :
    Inbound limits es { q.past pending rest with held := held } (t.followedBy u) := by
  obtain ⟨done, hplace⟩ := h.running hrun
  obtain ⟨hnone, hread⟩ := hread
  have hkeeps : q.Keeps { q.past pending rest with held := held } :=
    ⟨rfl, rfl, rfl, rfl, rfl, .inl rfl⟩
  refine h.advance hrun hkeeps rfl done ⟨?_, hplace.counted, ?_⟩
  · rw [Traffic.writes_followedBy, hwrites, List.append_nil]
    exact hplace.written
  · have hpasses := hplace.passes
    rw [hnone, Option.toList_none, List.append_nil] at hpasses
    rw [h.limits_eq] at hread
    rw [hheld]
    exact hpasses.frame hread hclose

/-- A frame that completes no data message takes the relay on without one. -/
theorem pastNone (h : Inbound limits es q t) (hrun : q.cause = none) {u : Traffic}
    {pending : Option Fragments} {message : Option Message} {rest : Bytes}
    (hread : q.Reads pending message rest) (hclose : ∀ reply, message ≠ some (.close reply))
    (hnone : completed message = []) (hwrites : u.writes = []) :
    Inbound limits es (q.past pending rest) (t.followedBy u) := by
  have hsame : q.past pending rest = { q.past pending rest with held := none } := by
    rw [← hread.1]
    rfl
  rw [hsame]
  exact h.past hrun hread hclose hnone.symm hwrites

/-- A relay that ends has made no writes, except of the message that waits. -/
theorem stopped (h : Inbound limits es q t) {cause : Cause} {writes : List Bytes}
    (hend : q.Ends cause writes s) :
    Stopped limits cause q.held.toList writes q.pending q.wire.unread := by
  cases hend with
  | @writeFailed payload fault writes hheld hdel =>
    refine ⟨?_, fun _ => ⟨fault, rfl⟩, nofun⟩
    rw [hheld, Option.toList_some, List.flatten_singleton]
    exact deliver_failed hdel
  | @remoteClosed pending reply rest hread =>
    refine ⟨List.nil_prefix, fun hne => absurd rfl hne, fun other hother => ?_⟩
    cases hother
    rw [hread.1, ← h.limits_eq]
    exact ⟨rfl, pending, rest, hread.2⟩
  | _ => exact .unwritten nofun

theorem move (h : Inbound limits es q t) (hrun : q.cause = none) {u : Traffic}
    (hmove : Move q u s) : Inbound limits es s (t.followedBy u) := by
  have hkeeps := hmove.keeps
  cases hmove with
  | sent hopen =>
    obtain ⟨done, hplace⟩ := h.running hrun
    refine h.advance hrun hkeeps rfl done ?_
    rw [Traffic.writes_followedBy, List.append_nil]
    exact hplace
  | skipped hread hnone =>
    rcases hnone with rfl | ⟨payload, rfl⟩
    · exact h.pastNone hrun hread nofun rfl rfl
    · exact h.pastNone hrun hread nofun rfl rfl
  | answered hread hopen => exact h.pastNone hrun hread nofun rfl rfl
  | received hread => exact h.past hrun hread nofun rfl rfl
  | @handed payload writes hheld hdel =>
    obtain ⟨done, hplace⟩ := h.running hrun
    have hpasses := hplace.passes
    rw [hheld] at hpasses
    refine h.advance hrun hkeeps rfl (done ++ [payload]) ⟨?_, ?_, ?_⟩
    · rw [Traffic.writes_followedBy, List.flatten_append, List.flatten_append, hplace.written,
        List.flatten_singleton]
      exact congrArg _ (deliver_done hdel).1
    · rw [List.flatten_append, List.length_append, List.flatten_singleton, ← hplace.counted]
    · rw [Option.toList_none, List.append_nil]
      exact hpasses
  | ended hend => exact h.finish hrun hend.keeps hend.toLocal (h.stopped hend)

/-- An event adds the octets that it brings behind the place of a relay. -/
theorem absorb (h : Inbound limits es q t) (hrun : q.cause = none) (e : Event) :
    Inbound limits (es ++ [e]) (q.absorb e) t where
  limits_eq := by
    rw [absorb_eq]
    exact h.limits_eq
  dropped _ := by
    rw [absorb_dropped, h.dropped hrun, List.mem_append, List.mem_singleton, eq_comm (a := e)]
  running _ := by
    obtain ⟨done, hplace⟩ := h.running hrun
    -- octets come as long as the script has not dropped the transport
    have hunread : (q.absorb e).wire.unread
        = q.wire.unread ++ if .remoteDrop ∈ es then [] else e.octets := by
      simp only [absorb_unread, h.dropped hrun]
    refine ⟨done, ?_⟩
    rw [hunread, absorb_eq]
    refine ⟨hplace.written, hplace.counted, ?_⟩
    rw [Event.arrived_concat]
    exact hplace.passes.append _
  ended cause hc := by
    rw [absorb_cause, hrun] at hc
    cases hc

/-- What happens after the end changes nothing. -/
theorem rest (h : Inbound limits es q t) (hend : q.cause ≠ none) (e : Event) :
    Inbound limits (es ++ [e]) q t where
  limits_eq := h.limits_eq
  dropped hc := absurd hc hend
  running hc := absurd hc hend
  ended cause hc := by
    obtain ⟨done, waiting, writes, failed, p, rest, hplace, hwrites, hstop⟩ := h.ended cause hc
    obtain ⟨octets, hplace⟩ := hplace.append [e]
    exact ⟨done, waiting, writes, failed, p, rest ++ octets, hplace, hwrites,
      hstop.append octets⟩

theorem begun (limits : Limits) (deadline : Option Duration) :
    Inbound limits [] { limits := limits, deadline := deadline } Traffic.none :=
  ⟨rfl, fun _ => by simp, fun _ => ⟨[], rfl, rfl, .start⟩, nofun⟩

/-- A relay may be called off at the place where it stands. -/
theorem cancel (h : Inbound limits es q t) (hrun : q.cause = none) :
    Inbound limits (es ++ [.cancel]) (q.finish .cancelled).1
      (t.followedBy (q.finish .cancelled).2) := by
  have hstop : Stopped limits .cancelled q.held.toList [] q.pending q.wire.unread :=
    .unwritten nofun
  exact (h.finish hrun (Keeps.refl q) rfl hstop).rest nofun .cancel

end Inbound

theorem session_inbound (limits : Limits) (deadline : Option Duration) (script : List Event) :
    let begun : Relay := { limits := limits, deadline := deadline }
    Inbound limits script (begun.session script).1 (begun.session script).2 := by
  intro begun
  refine session_induction (P := Inbound limits) rfl (.begun limits deadline) ?_ ?_ ?_ ?_ script
  · exact fun hrun h hmove => h.move hrun hmove
  · exact fun hrun _ h _ => h.absorb hrun _
  · exact fun hrun _ h => h.cancel hrun
  · exact fun hend h => h.rest hend _

/-! ### What the application has -/

theorem Inbound.delivered {limits : Limits} {es : List Event} {q : Relay} {t : Traffic}
    (h : Inbound limits es q t) :
    t.delivered <+: (incoming limits none (Event.arrived es)).flatten := by
  cases hc : q.cause with
  | none =>
    obtain ⟨done, hplace⟩ := h.running hc
    rw [hplace.incoming, Traffic.delivered, hplace.written, List.flatten_append,
      List.flatten_append, List.append_assoc]
    exact List.prefix_append _ _
  | some cause =>
    obtain ⟨done, waiting, writes, failed, p, rest, hplace, hwrites, hstop⟩ := h.ended cause hc
    rw [hplace.incoming, Traffic.delivered, hwrites, List.flatten_append,
      hplace.written, List.flatten_append, List.flatten_append, List.append_assoc]
    rw [List.prefix_append_right_inj]
    exact hstop.failed_start.trans (List.prefix_append _ _)

/-- A relay that ended well did not fail to hand a message over. -/
theorem ended_well {q : Relay} {s : Summary} (hs : q.result? = some (.ok s)) :
    ∃ cause, q.cause = some cause ∧ (∀ fault, cause ≠ .localWriteFailed fault) ∧
      (s.ending = .remoteClosed → ∃ reply, cause = .remoteClosed reply) := by
  obtain ⟨-, -, hending⟩ := result?_ok hs
  rcases hending with ⟨hc, hend⟩ | ⟨⟨reply, hc⟩, hend⟩ | ⟨hc, hend⟩
  · exact ⟨_, hc, nofun, fun h => by rw [hend] at h; cases h⟩
  · exact ⟨_, hc, nofun, fun _ => ⟨reply, rfl⟩⟩
  · exact ⟨_, hc, nofun, fun h => by rw [hend] at h; cases h⟩

/-- A relay that ended well has handed over whole messages only. -/
theorem Inbound.whole {limits : Limits} {es : List Event} {q : Relay} {t : Traffic}
    (h : Inbound limits es q t) {s : Summary} (hs : q.result? = some (.ok s)) :
    ∃ done waiting p rest, Stands limits es s.toLocal t.writes done waiting p rest ∧
      (s.ending = .remoteClosed → ∃ reply, Stopped limits (.remoteClosed reply) waiting [] p rest) := by
  obtain ⟨-, hcount, -⟩ := result?_ok hs
  obtain ⟨cause, hc, hfault, hclosed⟩ := ended_well hs
  obtain ⟨done, waiting, writes, failed, p, rest, hplace, hwrites, hstop⟩ := h.ended cause hc
  have hfailed : failed = [] := by
    by_contra hne
    obtain ⟨fault, hcause⟩ := hstop.failed_cause hne
    exact hfault fault hcause
  subst hfailed
  rw [List.append_nil] at hwrites
  rw [← hcount, ← hwrites] at hplace
  refine ⟨done, waiting, p, rest, hplace, fun hend => ?_⟩
  obtain ⟨reply, rfl⟩ := hclosed hend
  exact ⟨reply, hstop⟩

/-- At every moment the application has a prefix of what the data messages say that come from the
other end before its first close frame, the first frame or message that cannot be read, and the
end of the transport. A relay that ends well has counted the messages that the application took
whole and flushed, and has written nothing else. If the other end closed, those are all. -/
theorem session_delivered (limits : Limits) (deadline : Option Duration)
    (script more : List Event) :
    let begun : Relay := { limits := limits, deadline := deadline }
    let r := (begun.session script).1
    let t := (begun.session script).2
    let octets := Event.arrived (script ++ more)
    let said := incoming limits none octets
    Conversation limits.message (WireFrame.all limits.frame octets) said ∧
    t.delivered <+: said.flatten ∧
    (∀ s, r.result? = some (.ok s) →
      ∃ done, done <+: said ∧ t.delivered = done.flatten ∧ s.toLocal = done.flatten.length ∧
        ∀ front rest fault, script = front ++ .localFlushFault fault :: rest →
          t.writes = (begun.session front).2.writes) ∧
    (∀ s, r.result? = some (.ok s) → s.ending = .remoteClosed →
      t.delivered = said.flatten ∧ s.toLocal = said.flatten.length) := by
  intro begun r t octets said
  have hin : Inbound limits script r t := session_inbound limits deadline script
  have hsaid : incoming limits none (Event.arrived script) <+: said := by
    obtain ⟨later, hlater⟩ := Event.arrived_mono script more
    have := incoming_mono limits none (Event.arrived script) later
    rwa [hlater] at this
  refine ⟨conversation_assemble _ _, ?_, ?_, ?_⟩
  · exact hin.delivered.trans hsaid.flatten
  · intro s hs
    obtain ⟨done, waiting, p, rest, hplace, -⟩ := hin.whole hs
    have hdone : done <+: incoming limits none (Event.arrived script) := by
      rw [hplace.incoming, List.append_assoc]
      exact List.prefix_append _ _
    refine ⟨done, hdone.trans hsaid, hplace.written, hplace.counted, ?_⟩
    rintro front rest fault rfl
    refine (session_unflushed begun front rest fault).written.resolve_right ?_
    rintro ⟨fault, hfailed⟩
    obtain ⟨cause, hc, hwell, -⟩ := ended_well hs
    cases hfailed.symm.trans hc
    exact hwell _ rfl
  · intro s hs hclosed
    obtain ⟨done, waiting, p, rest, hplace, hstop⟩ := hin.whole hs
    obtain ⟨reply, hstop⟩ := hstop hclosed
    -- the close frame has come, so that no event after the script can add a message
    obtain ⟨added, hplace⟩ := hplace.append more
    obtain ⟨hnil, q, after, hread⟩ := (hstop.append added).closed reply rfl
    have hdone : said = done := by
      show incoming limits none octets = done
      rw [hplace.incoming, hnil, incoming_close hread, List.append_nil, List.append_nil]
    rw [hdone]
    exact ⟨hplace.written, hplace.counted⟩

end Relay

end Carrier
