import Carrier.Proofs.Relay.Inbound
import Carrier.Proofs.Relay.Independence
import Carrier.Proofs.WebSocket.Boundary
import Carrier.Proofs.WebSocket.Refusal

/-!
# Pings and their answers

A relay answers each ping that it reads, at once and in order, and reads all that has come unless
the application does not take a message.

- `WireFrame.pings`: what the pings carry that have come.
- `Traffic.pongs`, `Traffic.besides`: the pongs that were sent, and the other frames.
- `WireFrame.answers`: the pongs that answer pings.
- `Relay.Heard`: the frames that a relay has read, and its answers.
- `Relay.session_heard`: every ping that has been read has been answered.
- `Relay.session_unstalled`: a relay that need not wait has read all.
-/

namespace Carrier

/-- What the pings carry among a number of frames. -/
def WireFrame.pings (fs : List WireFrame) : List Bytes :=
  (fs.filter (·.code = Opcode.ping.code)).map WireFrame.payload

/-- The pongs that answer the pings among a number of frames: one for each, with the same payload,
in the same order. -/
def WireFrame.answers (fs : List WireFrame) : List Frame := (pings fs).map (Frame.whole .pong)

@[simp] theorem WireFrame.answers_append (fs gs : List WireFrame) :
    answers (fs ++ gs) = answers fs ++ answers gs := by
  simp [answers, pings]

/-- The pong that answers a message, if it is a ping. -/
def Message.answer : Option Message → List Frame
  | some (.ping payload) => [.whole .pong payload]
  | _ => []

/-- A frame that is accepted says a ping if and only if it is one. -/
theorem acceptFrame_answers {limit : Nat} {pending : Option Fragments} {f : WireFrame}
    {result : Option Fragments × Option Message}
    (h : acceptFrame limit pending f = .ok result) :
    WireFrame.answers [f] = Message.answer result.2 := by
  by_cases hcode : f.code = Opcode.ping.code
  · rw [acceptFrame_ping h hcode]
    simp [WireFrame.answers, WireFrame.pings, hcode, Message.answer]
  · have hnone : WireFrame.answers [f] = [] := by
      simp [WireFrame.answers, WireFrame.pings, hcode]
    rw [hnone]
    unfold Message.answer
    split
    · rename_i payload hping
      exact absurd (acceptFrame_control h hping rfl).code hcode
    · rfl

namespace Traffic

/-- The pongs that were sent. -/
def pongs (t : Traffic) : List Frame := t.frames.filter (·.opcode = .pong)

/-- The frames other than pongs that were sent. -/
def besides (t : Traffic) : List Frame := t.frames.filter (·.opcode ≠ .pong)

@[simp] theorem pongs_followedBy (t u : Traffic) :
    (t.followedBy u).pongs = t.pongs ++ u.pongs := by
  simp [pongs]

@[simp] theorem besides_followedBy (t u : Traffic) :
    (t.followedBy u).besides = t.besides ++ u.besides := by
  simp [besides]

theorem pongs_eq_nil {t : Traffic} (h : ∀ f ∈ t.frames, f.opcode ≠ .pong) : t.pongs = [] := by
  rw [pongs, List.filter_eq_nil_iff]
  intro f hf
  simpa using h f hf

end Traffic

namespace Relay

/-- A relay that ends sends no pong. -/
theorem finish_pongs (r : Relay) (cause : Cause) : (r.finish cause).2.pongs = [] := by
  refine Traffic.pongs_eq_nil fun f hf => ?_
  rw [finish_frames] at hf
  split at hf
  · cases hf
  · rw [List.mem_singleton.mp hf, cause.closeFrame_opcode]
    nofun

/-- What a relay has read of the script `es`, from an end that is still there, and that its
traffic `t` answers it. -/
structure Heard (limits : Limits) (es : List Event) (q : Relay) (t : Traffic) : Prop where
  limits_eq : q.limits = limits
  present : q.wire.dropped = false
  answered : ∃ fs, WireFrame.Leads limits.frame (Event.arrived es) fs q.wire.unread ∧
    t.pongs = WireFrame.answers fs

namespace Heard

variable {limits : Limits} {es : List Event} {q s : Relay} {t u : Traffic}

/-- What has to do neither with the other end nor with pongs. -/
theorem quiet (h : Heard limits es q t) (hkeeps : q.Keeps s)
    (hunread : s.wire.unread = q.wire.unread) (hpongs : u.pongs = []) :
    Heard limits es s (t.followedBy u) where
  limits_eq := hkeeps.limits.trans h.limits_eq
  present := hkeeps.dropped.trans h.present
  answered := by
    rw [Traffic.pongs_followedBy, hpongs, List.append_nil, hunread]
    exact h.answered

/-- One more frame that is read. -/
theorem past (h : Heard limits es q t) (hkeeps : q.Keeps s) {pending : Option Fragments}
    {message : Option Message} {rest : Bytes} (hread : q.Reads pending message rest)
    (hunread : s.wire.unread = rest) (hpongs : u.pongs = Message.answer message) :
    Heard limits es s (t.followedBy u) where
  limits_eq := hkeeps.limits.trans h.limits_eq
  present := hkeeps.dropped.trans h.present
  answered := by
    obtain ⟨fs, hleads, hanswered⟩ := h.answered
    obtain ⟨f, hframe, haccept⟩ := Intake.read_eq_frame.mp hread.2
    rw [h.limits_eq] at hframe
    refine ⟨fs ++ [f], ?_, ?_⟩
    · rw [hunread]
      exact hleads.concat hframe
    · rw [Traffic.pongs_followedBy, WireFrame.answers_append, hanswered, hpongs,
        acceptFrame_answers haccept]

theorem move (h : Heard limits es q t) (hmove : Move q u s) :
    Heard limits es s (t.followedBy u) := by
  have hkeeps := hmove.keeps
  cases hmove with
  | sent hopen =>
    refine h.quiet hkeeps rfl (Traffic.pongs_eq_nil fun f hf => ?_)
    obtain ⟨payload, -, rfl⟩ := List.mem_map.mp hf
    nofun
  | skipped hread hnone =>
    rcases hnone with rfl | ⟨payload, rfl⟩
    · exact h.past hkeeps hread rfl rfl
    · exact h.past hkeeps hread rfl rfl
  | answered hread hopen => exact h.past hkeeps hread rfl rfl
  | received hread => exact h.past hkeeps hread rfl rfl
  | handed hheld hdel => exact h.quiet hkeeps rfl rfl
  | @ended cause writes last hend =>
    have hpongs : ((Traffic.written writes).followedBy (last.finish cause).2).pongs = [] := by
      rw [Traffic.pongs_followedBy, finish_pongs]
      rfl
    cases hend with
    | remoteClosed hread => exact h.past hkeeps hread rfl hpongs
    | pongFailed hread hdrop => cases h.present.symm.trans hdrop
    | _ => exact h.quiet hkeeps rfl hpongs

theorem absorb (h : Heard limits es q t) {e : Event} (hdrop : .remoteDrop ∉ es ++ [e]) :
    Heard limits (es ++ [e]) (q.absorb e) t := by
  have hes : .remoteDrop ∉ es := fun hmem => hdrop (List.mem_append_left _ hmem)
  have he : e ≠ .remoteDrop := by
    rintro rfl
    exact hdrop (List.mem_append_right _ (List.mem_singleton_self _))
  obtain ⟨fs, hleads, hanswered⟩ := h.answered
  refine ⟨?_, ?_, fs, ?_, hanswered⟩
  · rw [absorb_eq]
    exact h.limits_eq
  · cases e with
    | remoteDrop => exact absurd rfl he
    | remoteBytes data => simp [Relay.absorb, h.present]
    | _ => exact h.present
  · rw [Event.arrived_concat, if_neg hes, absorb_unread, h.present]
    exact hleads.append e.octets

/-- A relay that is called off has read what it has read. -/
theorem cancel (h : Heard limits es q t) :
    Heard limits (es ++ [.cancel]) (q.finish .cancelled).1
      (t.followedBy (q.finish .cancelled).2) := by
  have hkeeps : q.Keeps (q.finish .cancelled).1 := ⟨rfl, rfl, rfl, rfl, rfl, .inl rfl⟩
  have hquiet := h.quiet hkeeps rfl (q.finish_pongs .cancelled)
  have harrived : Event.arrived (es ++ [.cancel]) = Event.arrived es := by
    rw [Event.arrived_concat]
    split <;> exact List.append_nil _
  refine ⟨hquiet.limits_eq, hquiet.present, ?_⟩
  rw [harrived]
  exact hquiet.answered

end Heard

/-- Up to its end a relay has answered the pings that it has read. -/
theorem session_heard (limits : Limits) (deadline : Option Duration) {script : List Event}
    (hdrop : .remoteDrop ∉ script) :
    let begun : Relay := { limits := limits, deadline := deadline }
    ∃ front rest, script = front ++ rest ∧ begun.session front = begun.session script ∧
      ((begun.session script).1.cause = none → rest = []) ∧
      Heard limits front (begun.session script).1 (begun.session script).2 := by
  intro begun
  obtain ⟨front, rest, hscript, hsame, hrest, hheard⟩ :=
    session_upto (P := fun es q t => .remoteDrop ∉ es → Heard limits es q t) (r := begun) rfl
      (fun _ => ⟨rfl, rfl, [], .here [], rfl⟩)
      (fun _ h hmove hes => (h hes).move hmove)
      (fun _ _ h _ hes => (h fun hmem => hes (List.mem_append_left _ hmem)).absorb hes)
      (fun _ _ h hes => (h fun hmem => hes (List.mem_append_left _ hmem)).cancel) script
  refine ⟨front, rest, hscript, hsame, hrest, hheard fun hmem => hdrop ?_⟩
  rw [hscript]
  exact List.mem_append_left rest hmem

/-- A message waits only behind a stall. -/
theorem deliver_blocked {app : Application} {payload : Bytes}
    (h : deliver app payload = .blocked) : app.stalled = true := by
  have hflush (writes : List Bytes) : flush app writes ≠ .blocked := by
    unfold flush
    split <;> nofun
  unfold deliver at h
  split at h
  · exact absurd h (hflush _)
  · split at h
    · cases h
    · split at h
      · cases h
      · split at h
        · assumption
        · exact absurd h (hflush _)

/-- A relay that waits for nothing but the other end has read all frames that have come. -/
theorem Heard.unstalled {limits : Limits} {es : List Event} {q : Relay} {t : Traffic}
    (h : Heard limits es q t) (hidle : q.takeIn = none) (hstalled : q.app.stalled = false) :
    t.pongs = WireFrame.answers (WireFrame.all limits.frame (Event.arrived es)) := by
  obtain ⟨fs, hleads, hanswered⟩ := h.answered
  rcases takeIn_eq_none.mp hidle with ⟨payload, hheld, hblocked⟩ | ⟨hheld, hread, -⟩
  · cases hstalled.symm.trans (deliver_blocked hblocked)
  · have hnone : WireFrame.all limits.frame q.wire.unread = [] := by
      rw [h.limits_eq] at hread
      exact WireFrame.all_stuck fun f rest hframe => by
        cases hframe.symm.trans (Intake.read_eq_incomplete.mp hread)
    rw [hleads.all, hnone, List.append_nil]
    exact hanswered

end Relay

end Carrier
