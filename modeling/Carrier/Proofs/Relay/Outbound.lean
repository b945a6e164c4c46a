import Carrier.Proofs.Relay.Script
import Carrier.Proofs.Relay.Teardown
import Carrier.Proofs.WebSocket.Wire
import Mathlib.Data.List.Infix

/-!
# From the application to the other end

What a relay sends in data frames is what the application wrote, chunk by chunk and in order.

- `Traffic.sent`: the payloads of the data frames sent.
- `WireFrame.Carries`: a masked frame that is a whole binary message.
- `Relay.Outbound`: how much of what the application wrote a relay has sent.
- `Relay.session_sent`: what the other end gets, throughout every session.
-/

namespace Carrier

/-! ### Data frames -/

namespace Traffic

/-- The payloads of the data frames sent to the other end. -/
def sent (t : Traffic) : List Bytes :=
  (t.frames.filter (!·.opcode.isControl)).map Frame.payload

@[simp] theorem sent_followedBy (t u : Traffic) :
    (t.followedBy u).sent = t.sent ++ u.sent := by
  simp [sent]

@[simp] theorem sent_written (writes : List Bytes) : (written writes).sent = [] := rfl

theorem sent_binary (payloads writes : List Bytes) :
    (⟨payloads.map (Frame.whole .binary), writes⟩ : Traffic).sent = payloads := by
  induction payloads with
  | nil => rfl
  | cons payload rest ih => exact congrArg (payload :: ·) ih

theorem sent_control {t : Traffic} (h : ∀ f ∈ t.frames, f.opcode.isControl = true) :
    t.sent = [] := by
  have hnone : t.frames.filter (!·.opcode.isControl) = [] := by
    rw [List.filter_eq_nil_iff]
    intro f hf
    simp [h f hf]
  rw [sent, hnone]
  rfl

theorem mem_sent {t : Traffic} {f : Frame} (hf : f ∈ t.frames)
    (hdata : f.opcode.isControl = false) : f.payload ∈ t.sent :=
  List.mem_map.mpr ⟨f, List.mem_filter.mpr ⟨hf, by rw [hdata]; rfl⟩, rfl⟩

end Traffic

/-- `w.Carries key payload`: the frame is a whole binary message, with the payload under the
mask of the key. -/
structure WireFrame.Carries (w : WireFrame) (key payload : Bytes) : Prop where
  fin : w.fin = true
  reserved : w.reserved = 0
  code : w.code = Opcode.binary.code
  mask : w.mask = some key
  unmasked : maskWith key w.payload = payload

theorem WireFrame.ofFrame_carries (key payload : Bytes) :
    (ofFrame key (.whole .binary payload)).Carries key payload :=
  ⟨rfl, rfl, rfl, rfl, maskWith_maskWith key payload⟩

namespace Relay

/-! ### How much has been sent -/

/-- The payloads of the frames that carry chunks of the application. -/
def cut (chunks : List Bytes) : List Bytes := chunks.flatMap (Bytes.pieces chunkSize)

theorem cut_flatten (chunks : List Bytes) : (cut chunks).flatten = chunks.flatten := by
  induction chunks with
  | nil => rfl
  | cons chunk rest ih =>
    rw [cut, List.flatMap_cons, List.flatten_append, Bytes.pieces_flatten, List.flatten_cons]
    exact congrArg (chunk ++ ·) ih

theorem cut_mono {chunks more : List Bytes} (h : chunks <+: more) : cut chunks <+: cut more :=
  h.flatMap _

/-- A payload is a part of one chunk, of at most 16384 octets. -/
theorem mem_cut {chunks : List Bytes} {payload : Bytes} (h : payload ∈ cut chunks) :
    1 ≤ payload.length ∧ payload.length ≤ 16384 ∧ ∃ chunk ∈ chunks, payload <:+: chunk := by
  obtain ⟨chunk, hchunk, hpiece⟩ := List.mem_flatMap.mp h
  obtain ⟨hlow, hhigh⟩ := Bytes.length_of_mem_pieces (Nat.zero_lt_succ _) hpiece
  have hinfix := List.infix_of_mem_flatten hpiece
  rw [Bytes.pieces_flatten] at hinfix
  exact ⟨hlow, hhigh, chunk, hchunk, hinfix⟩

/-- A relay that ends sends no data frame. -/
theorem finish_control (r : Relay) (cause : Cause) :
    ∀ f ∈ (r.finish cause).2.frames, f.opcode.isControl = true := by
  intro f hf
  rw [finish_frames] at hf
  split at hf
  · cases hf
  · rw [List.mem_singleton.mp hf, cause.closeFrame_opcode]
    rfl

@[simp] theorem finish_sent (r : Relay) (cause : Cause) : (r.finish cause).2.sent = [] :=
  Traffic.sent_control (r.finish_control cause)

/-- What a relay has sent after the script `es`, with the traffic `t`. -/
structure Outbound (es : List Event) (q : Relay) (t : Traffic) : Prop where
  binary : ∀ f ∈ t.frames, f.opcode.isControl = false → f = .whole .binary f.payload
  counted : q.toRemote = t.sent.flatten.length
  sent : t.sent <+: cut (Event.written es)
  unended : q.cause = none → (q.app.readEnd = none ↔ es.any Event.endsData = false)
  running : q.cause = none → t.sent ++ q.outgoing = cut (Event.written es)
  eof : q.cause = some .localEof →
    es.any Event.endsData = true ∧ t.sent = cut (Event.written es)

theorem absorb_outgoing (r : Relay) (e : Event) :
    (r.absorb e).outgoing = r.outgoing ++ cut e.chunk?.toList := by
  cases e with
  | localWrite data => simp [absorb, outgoing, cut, Event.chunk?]
  | remoteBytes data =>
    simp only [absorb, Event.chunk?, Option.toList_none]
    split <;> exact (List.append_nil _).symm
  | _ => exact (List.append_nil _).symm

theorem absorb_readEnd (r : Relay) (e : Event) :
    (r.absorb e).app.readEnd = none ↔ r.app.readEnd = none ∧ e.endsData = false := by
  cases e with
  | localEnd how => simp [absorb, Event.endsData]
  | remoteBytes data =>
    simp only [absorb]
    split <;> simp [Event.endsData]
  | _ => simp [absorb, Event.endsData]

namespace Outbound

variable {es : List Event} {q s : Relay} {t u : Traffic}

/-- A relay may send some of what is outgoing. -/
theorem advance (h : Outbound es q t) (hrun : q.cause = none) (hkeeps : q.Keeps s)
    (hcause : s.cause = none)
    (hbinary : ∀ f ∈ u.frames, f.opcode.isControl = false → f = .whole .binary f.payload)
    (hcount : s.toRemote = q.toRemote + u.sent.flatten.length)
    (hout : u.sent ++ s.outgoing = q.outgoing) : Outbound es s (t.followedBy u) := by
  -- what was sent and what is outgoing are all the chunks so far, and stay so
  have hsum : (t.followedBy u).sent ++ s.outgoing = cut (Event.written es) := by
    rw [Traffic.sent_followedBy, List.append_assoc, hout, h.running hrun]
  refine ⟨?_, ?_, ?_, ?_, fun _ => hsum, ?_⟩
  · intro f hf
    rcases List.mem_append.mp hf with hf | hf
    · exact h.binary f hf
    · exact hbinary f hf
  · rw [hcount, h.counted, Traffic.sent_followedBy, List.flatten_append, List.length_append]
  · rw [← hsum]
    exact List.prefix_append _ _
  · intro _
    rw [hkeeps.app]
    exact h.unended hrun
  · intro hc
    rw [hcause] at hc
    cases hc

/-- A relay may send control frames. -/
theorem quiet (h : Outbound es q t) (hrun : q.cause = none) (hkeeps : q.Keeps s)
    (hcause : s.cause = none) (hcontrol : ∀ f ∈ u.frames, f.opcode.isControl = true)
    (hcount : s.toRemote = q.toRemote) (hout : s.outgoing = q.outgoing) :
    Outbound es s (t.followedBy u) := by
  have hnone := Traffic.sent_control hcontrol
  refine h.advance hrun hkeeps hcause ?_ ?_ ?_
  · intro f hf hdata
    rw [hcontrol f hf] at hdata
    cases hdata
  · rw [hnone, hcount]
    rfl
  · rw [hnone, hout]
    rfl

/-- A relay may end with some of what is outgoing unsent, unless the application's data end. -/
theorem finish (h : Outbound es q t) (hrun : q.cause = none) {cause : Cause}
    {writes : List Bytes} (hcount : s.toRemote = q.toRemote)
    (heof : cause = .localEof → q.app.unread = [] ∧ q.app.readEnd ≠ none) :
    Outbound es (s.finish cause).1
      (t.followedBy ((Traffic.written writes).followedBy (s.finish cause).2)) := by
  have hsent : (t.followedBy ((Traffic.written writes).followedBy (s.finish cause).2)).sent
      = t.sent := by
    simp
  refine ⟨?_, ?_, ?_, nofun, nofun, ?_⟩
  · intro f hf hdata
    rcases List.mem_append.mp hf with hf | hf
    · exact h.binary f hf hdata
    · rw [s.finish_control cause f hf] at hdata
      cases hdata
  · rw [hsent, ← h.counted]
    exact hcount
  · rw [hsent]
    exact h.sent
  · intro hc
    obtain ⟨hunread, hend⟩ := heof (Option.some.inj hc)
    have hall := h.running hrun
    rw [outgoing, hunread, List.flatMap_nil, List.append_nil] at hall
    rw [hsent]
    refine ⟨?_, hall⟩
    rw [ne_eq, h.unended hrun, Bool.not_eq_false] at hend
    exact hend

theorem move (h : Outbound es q t) (hrun : q.cause = none) (hmove : Move q u s) :
    Outbound es s (t.followedBy u) := by
  have hkeeps := hmove.keeps
  cases hmove with
  | sent hopen =>
    refine h.advance hrun hkeeps hrun ?_ ?_ ?_
    · intro f hf hdata
      obtain ⟨payload, -, rfl⟩ := List.mem_map.mp hf
      rfl
    · rw [Traffic.sent_binary]
      rfl
    · rw [Traffic.sent_binary]
      exact List.append_nil _
  | skipped hread hnone => exact h.quiet hrun hkeeps hrun nofun rfl rfl
  | answered hread hopen =>
    refine h.quiet hrun hkeeps hrun (fun f hf => ?_) rfl rfl
    rw [List.mem_singleton.mp hf]
    rfl
  | received hread => exact h.quiet hrun hkeeps hrun nofun rfl rfl
  | handed hheld hdel => exact h.quiet hrun hkeeps hrun nofun rfl rfl
  | ended hend =>
    cases hend with
    | localEof hsent hend => exact h.finish hrun rfl fun _ => ⟨hsent, by rw [hend]; nofun⟩
    | _ => exact h.finish hrun rfl nofun

/-- An event adds the chunk that it brings to what is outgoing. -/
theorem absorb (h : Outbound es q t) (hrun : q.cause = none) (hsettled : Settled q) (e : Event) :
    Outbound (es ++ [e]) (q.absorb e) t := by
  -- a settled relay has seen no end of the data, so that the event's chunk counts
  have hopen := (h.unended hrun).mp hsettled.unended
  have hwritten : cut (Event.written (es ++ [e])) = cut (Event.written es) ++ cut e.chunk?.toList := by
    rw [Event.written_concat, hopen]
    exact List.flatMap_append
  refine ⟨h.binary, ?_, ?_, ?_, ?_, ?_⟩
  · rw [absorb_eq]
    exact h.counted
  · exact h.sent.trans (cut_mono (Event.written_mono es [e]))
  · intro _
    rw [absorb_readEnd, h.unended hrun, List.any_append]
    simp
  · intro _
    rw [absorb_outgoing, ← List.append_assoc, h.running hrun, hwritten]
  · intro hc
    rw [absorb_cause, hrun] at hc
    cases hc

/-- What happens after the end changes nothing. -/
theorem rest (h : Outbound es q t) (hend : q.cause ≠ none) (e : Event) :
    Outbound (es ++ [e]) q t := by
  refine ⟨h.binary, h.counted, ?_, fun hc => absurd hc hend, fun hc => absurd hc hend, ?_⟩
  · exact h.sent.trans (cut_mono (Event.written_mono es [e]))
  · intro hc
    obtain ⟨hany, hsent⟩ := h.eof hc
    rw [List.any_append, hany, Event.written_concat, hany]
    exact ⟨rfl, by simpa using hsent⟩

theorem begun (limits : Limits) (deadline : Option Duration) :
    Outbound [] { limits := limits, deadline := deadline } Traffic.none :=
  ⟨nofun, rfl, List.nil_prefix, fun _ => by simp, fun _ => rfl, nofun⟩

/-- A relay may be called off with some of what is outgoing unsent. -/
theorem cancel (h : Outbound es q t) (hrun : q.cause = none) :
    Outbound (es ++ [.cancel]) (q.finish .cancelled).1 (t.followedBy (q.finish .cancelled).2) := by
  have hfinish : Outbound es (q.finish .cancelled).1
      (t.followedBy ((Traffic.written []).followedBy (q.finish .cancelled).2)) :=
    h.finish hrun rfl nofun
  exact hfinish.rest nofun .cancel

end Outbound

theorem session_outbound (limits : Limits) (deadline : Option Duration) (script : List Event) :
    let begun : Relay := { limits := limits, deadline := deadline }
    Outbound script (begun.session script).1 (begun.session script).2 := by
  intro begun
  refine session_induction (P := Outbound) rfl (.begun limits deadline) ?_ ?_ ?_ ?_ script
  · exact fun hrun h hmove => h.move hrun hmove
  · exact fun hrun hsettled h _ => h.absorb hrun hsettled _
  · exact fun hrun _ h => h.cancel hrun
  · exact fun hend h => h.rest hend _

/-! ### What the other end gets -/

/-- Every data frame that a relay sends is a masked frame of 1 to 16384 octets, which is a whole
binary message and a part of one chunk of the application. At every moment the payloads are the
first of those into which the chunks are cut, so that the other end has a prefix of what the
application wrote; if the application's data came to their end, it has all of it. A relay that
ends well has counted what it sent. -/
theorem session_sent (limits : Limits) (deadline : Option Duration) (script more : List Event) :
    let begun : Relay := { limits := limits, deadline := deadline }
    let r := (begun.session script).1
    let t := (begun.session script).2
    let chunks := Event.written (script ++ more)
    (∀ f ∈ t.frames, f.opcode.isControl = false →
      1 ≤ f.payload.length ∧ f.payload.length ≤ 16384 ∧ (∃ chunk ∈ chunks, f.payload <:+: chunk) ∧
      ∀ key limit rest, key.length = 4 → 16384 ≤ limit →
        ∃ w, WireFrame.read limit ((WireFrame.ofFrame key f).encode ++ rest) = .frame w rest ∧
          w.Carries key f.payload) ∧
    t.sent <+: cut chunks ∧
    t.sent.flatten <+: chunks.flatten ∧
    (∀ s, r.result? = some (.ok s) → s.toRemote = t.sent.flatten.length) ∧
    (∀ s, r.result? = some (.ok s) → s.ending = .localClosed →
      script.any Event.endsData = true ∧ t.sent.flatten = chunks.flatten) := by
  intro begun r t chunks
  have hout : Outbound script r t := session_outbound limits deadline script
  have hsent : t.sent <+: cut chunks := hout.sent.trans (cut_mono (Event.written_mono _ _))
  refine ⟨fun f hf hdata => ?_, hsent, ?_, fun s hs => ?_, fun s hs hclosed => ?_⟩
  · obtain ⟨hlow, hhigh, hchunk⟩ := mem_cut (hsent.subset (Traffic.mem_sent hf hdata))
    refine ⟨hlow, hhigh, hchunk, fun key limit rest hkey hlimit => ?_⟩
    refine ⟨WireFrame.ofFrame key f, ?_, ?_⟩
    · exact WireFrame.read_ofFrame hkey (by omega) (by omega) rest
    · rw [hout.binary f hf hdata]
      exact WireFrame.ofFrame_carries key f.payload
  · rw [← cut_flatten chunks]
    exact hsent.flatten
  · obtain ⟨hcount, -, -⟩ := result?_ok hs
    rw [hcount, hout.counted]
  · obtain ⟨-, -, hending⟩ := result?_ok hs
    have hc : r.cause = some .localEof := by
      rcases hending with ⟨hc, -⟩ | ⟨-, hend⟩ | ⟨-, hend⟩
      · exact hc
      · cases hclosed.symm.trans hend
      · cases hclosed.symm.trans hend
    obtain ⟨hany, hall⟩ := hout.eof hc
    refine ⟨hany, ?_⟩
    rw [hall, cut_flatten, ← Event.written_ended hany more]

end Relay

end Carrier
