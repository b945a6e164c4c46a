import Carrier.Proofs.Relay.Inbound
import Carrier.Proofs.Relay.Outbound

/-!
# Why relays end

What has to have happened around a relay that ends for some cause, in terms of its script.

- `Event.dataEnd?`, `Event.last?`, `Event.elapsed`: what a script says about the application and
  the clock.
- `Relay.Around`: so it is around the relay.
- `Relay.Undeliverable`, `Relay.Unreadable`: why a message cannot be handed over, and why no more
  can be read.
- `Relay.Grounds`: what has happened when a relay ends for a cause.
- `Relay.Account`, `Relay.session_account`: every relay that has ended had such grounds.
-/

namespace Carrier

/-! ### What a script says -/

namespace Event

/-- How the application's data end with an event. -/
def readEnd? : Event → Option ReadEnd
  | .localEnd how => some how
  | _ => none

/-- How writing begins to fail with an event. -/
def writeFault? : Event → Option IoFault
  | .localWriteFault fault => some fault
  | _ => none

/-- How flushing begins to fail with an event. -/
def flushFault? : Event → Option IoFault
  | .localFlushFault fault => some fault
  | _ => none

/-- How much time passes with an event. -/
def span : Event → Duration
  | .advance span => span
  | _ => ⟨0⟩

/-- How the application's data end; what is said about it later does not count. -/
def dataEnd? (script : List Event) : Option ReadEnd := script.findSome? readEnd?

/-- The last that a script says about something. -/
def last? {α : Type} (view? : Event → Option α) (script : List Event) : Option α :=
  script.reverse.findSome? view?

/-- How much time passes in a script. -/
def elapsed (script : List Event) : Duration := script.foldl (fun t e => t + e.span) ⟨0⟩

theorem dataEnd?_concat (es : List Event) (e : Event) :
    dataEnd? (es ++ [e]) = (dataEnd? es).or e.readEnd? := by
  unfold dataEnd?
  rw [List.findSome?_append]
  cases e <;> rfl

theorem last?_concat {α : Type} (view? : Event → Option α) (es : List Event) (e : Event) :
    last? view? (es ++ [e]) = (view? e).or (last? view? es) := by
  unfold last?
  rw [List.reverse_append, List.reverse_singleton, List.singleton_append, List.findSome?_cons]
  cases view? e <;> rfl

theorem elapsed_concat (es : List Event) (e : Event) :
    elapsed (es ++ [e]) = elapsed es + e.span :=
  List.foldl_concat _ _ _ _

end Event

namespace Relay

/-! ### The surroundings of a relay -/

/-- The application and the clock are as the script `es` has made them. -/
structure Around (deadline : Option Duration) (es : List Event) (q : Relay) : Prop where
  deadline_eq : q.deadline = deadline
  elapsed_eq : q.elapsed = Event.elapsed es
  readEnd_eq : q.app.readEnd = Event.dataEnd? es
  writeFault_eq : q.app.writeFault = Event.last? Event.writeFault? es
  flushFault_eq : q.app.flushFault = Event.last? Event.flushFault? es
  takesNothing_iff : q.app.takesNothing = true ↔ .localTakesNothing ∈ es

namespace Around

variable {deadline : Option Duration} {es : List Event} {q s : Relay}

theorem keeps (h : Around deadline es q) (hkeeps : q.Keeps s) : Around deadline es s where
  deadline_eq := hkeeps.deadline.trans h.deadline_eq
  elapsed_eq := hkeeps.elapsed.trans h.elapsed_eq
  readEnd_eq := by
    rw [hkeeps.app]
    exact h.readEnd_eq
  writeFault_eq := by
    rw [hkeeps.app]
    exact h.writeFault_eq
  flushFault_eq := by
    rw [hkeeps.app]
    exact h.flushFault_eq
  takesNothing_iff := by
    rw [hkeeps.app]
    exact h.takesNothing_iff

theorem absorb (h : Around deadline es q) (e : Event) :
    Around deadline (es ++ [e]) (q.absorb e) := by
  have hdeadline : (q.absorb e).deadline = deadline := by
    rw [absorb_eq]
    exact h.deadline_eq
  refine ⟨hdeadline, ?_, ?_, ?_, ?_, ?_⟩
  · rw [Event.elapsed_concat, ← h.elapsed_eq]
    cases e with
    | remoteBytes data =>
      simp only [Relay.absorb]
      split <;> rfl
    | _ => rfl
  · rw [Event.dataEnd?_concat, ← h.readEnd_eq]
    cases e with
    | localEnd how =>
      show some (q.app.readEnd.getD how) = q.app.readEnd.or (some how)
      cases q.app.readEnd <;> rfl
    | remoteBytes data =>
      simp only [Relay.absorb, Event.readEnd?, Option.or_none]
      split <;> rfl
    | _ => exact (Option.or_none).symm
  · rw [Event.last?_concat, ← h.writeFault_eq]
    cases e with
    | remoteBytes data =>
      simp only [Relay.absorb, Event.writeFault?, Option.none_or]
      split <;> rfl
    | _ => rfl
  · rw [Event.last?_concat, ← h.flushFault_eq]
    cases e with
    | remoteBytes data =>
      simp only [Relay.absorb, Event.flushFault?, Option.none_or]
      split <;> rfl
    | _ => rfl
  · rw [List.mem_append, List.mem_singleton, ← h.takesNothing_iff]
    cases e with
    | remoteBytes data =>
      simp only [Relay.absorb]
      split <;> simp
    | localTakesNothing => simp [Relay.absorb]
    | _ => simp [Relay.absorb]

end Around

/-! ### Grounds -/

/-- `Undeliverable es payload fault`: after the script `es` a message cannot be handed over. -/
inductive Undeliverable (es : List Event) (payload : Bytes) : IoFault → Prop where
  | unwritten {fault : IoFault} (hsome : payload ≠ [])
    (hfault : Event.last? Event.writeFault? es = some fault) : Undeliverable es payload fault
  | untaken (hsome : payload ≠ []) (htakes : .localTakesNothing ∈ es) :
    Undeliverable es payload (.bare .writeZero)
  | unflushed {fault : IoFault} (hfault : Event.last? Event.flushFault? es = some fault) :
    Undeliverable es payload fault

/-- `Unreadable limits es p rest fault`: after the script `es`, where the fragments `p` are open
and the octets `rest` are left, no more can be read: what comes next is refused, the transport has
ended, or it has ended and what comes next is a ping, which has to be answered first. -/
inductive Unreadable (limits : Limits) (es : List Event) (p : Option Fragments) (rest : Bytes) :
    SocketFault → Prop where
  | refused {fault : SocketFault} (hread : Intake.read limits p rest = .broken fault) :
    Unreadable limits es p rest fault
  | ended (hread : Intake.read limits p rest = .incomplete) (hdrop : .remoteDrop ∈ es) :
    Unreadable limits es p rest (.protocol .resetWithoutClose)
  | unanswered {q : Option Fragments} {payload after : Bytes}
    (hread : Intake.read limits p rest = .frame q (some (.ping payload)) after)
    (hdrop : .remoteDrop ∈ es) : Unreadable limits es p rest sendFault

/-- `Grounds limits deadline es t cause`: what has happened in the script `es` when a relay with
the traffic `t` ends for a cause. -/
inductive Grounds (limits : Limits) (deadline : Option Duration) (es : List Event) (t : Traffic) :
    Cause → Prop where
  | localEof (hend : Event.dataEnd? es = some .eof) : Grounds limits deadline es t .localEof
  | localReadFailed {fault : IoFault} (hend : Event.dataEnd? es = some (.failed fault)) :
    Grounds limits deadline es t (.localReadFailed fault)
  | localWriteFailed {done : List Bytes} {payload rest : Bytes} {p : Option Fragments}
    {fault : IoFault} (hpasses : Passes limits none (Event.arrived es) (done ++ [payload]) p rest)
    (hfault : Undeliverable es payload fault) :
    Grounds limits deadline es t (.localWriteFailed fault)
  | remoteClosed {done : List Bytes} {p q : Option Fragments} {rest reply after : Bytes}
    (hpasses : Passes limits none (Event.arrived es) done p rest)
    (hdone : t.delivered = done.flatten)
    (hread : Intake.read limits p rest = .frame q (some (.close reply)) after) :
    Grounds limits deadline es t (.remoteClosed reply)
  | remoteReadFailed {done : List Bytes} {p : Option Fragments} {rest : Bytes}
    {fault : SocketFault} (hpasses : Passes limits none (Event.arrived es) done p rest)
    (hdone : t.delivered = done.flatten) (hfault : Unreadable limits es p rest fault) :
    Grounds limits deadline es t (.remoteReadFailed fault)
  | remoteSendFailed {chunk : Bytes} {chunks : List Bytes} (hdrop : .remoteDrop ∈ es)
    (hunsent : t.sent ++ chunk :: chunks = cut (Event.written es)) :
    Grounds limits deadline es t (.remoteSendFailed sendFault)
  | cancelled (hlast : es.getLast? = some .cancel) : Grounds limits deadline es t .cancelled
  | deadline {limit : Duration} (hlimit : deadline = some limit)
    (hle : limit ≤ Event.elapsed es) : Grounds limits deadline es t (.deadline limit)

/-- What a relay fails to hand over is undeliverable. -/
theorem Around.undeliverable {deadline : Option Duration} {es : List Event} {q : Relay}
    (h : Around deadline es q) {payload : Bytes} {fault : IoFault} {writes : List Bytes}
    (hdel : deliver q.app payload = .failed fault writes) : Undeliverable es payload fault := by
  unfold deliver at hdel
  split at hdel
  · exact .unflushed (h.flushFault_eq ▸ (flush_failed hdel).2)
  · rename_i hempty
    have hsome : payload ≠ [] := fun hnil => hempty (List.isEmpty_iff.mpr hnil)
    split at hdel
    · rename_i hfault
      cases hdel
      exact .unwritten hsome (h.writeFault_eq ▸ hfault)
    · split at hdel
      · rename_i htakes
        cases hdel
        exact .untaken hsome (h.takesNothing_iff.mp htakes)
      · split at hdel
        · cases hdel
        · exact .unflushed (h.flushFault_eq ▸ (flush_failed hdel).2)

/-! ### Every end has grounds -/

/-- What is known of a relay after the script `es`, with the traffic `t`. -/
structure Account (limits : Limits) (deadline : Option Duration) (es : List Event) (q : Relay)
    (t : Traffic) : Prop where
  inbound : Inbound limits es q t
  outbound : Outbound es q t
  around : Around deadline es q
  grounds : ∀ cause, q.cause = some cause → Grounds limits deadline es t cause

namespace Account

variable {limits : Limits} {deadline : Option Duration} {es : List Event} {q s : Relay}
  {t u : Traffic}

/-- A relay that ends has grounds to. -/
theorem ends (h : Account limits deadline es q t) (hrun : q.cause = none) {cause : Cause}
    {writes : List Bytes} (hend : q.Ends cause writes s) :
    Grounds limits deadline es
      (t.followedBy ((Traffic.written writes).followedBy (s.finish cause).2)) cause := by
  obtain ⟨done, hplace⟩ := h.inbound.running hrun
  have hlimits := h.inbound.limits_eq
  have hdrop := h.inbound.dropped hrun
  -- a relay without a message that waits has handed over all that it passed
  have hat : q.held = none → Passes limits none (Event.arrived es) done q.pending q.wire.unread ∧
      (t.followedBy ((Traffic.written []).followedBy (s.finish cause).2)).delivered
        = done.flatten := by
    intro hheld
    have hpasses := hplace.passes
    rw [hheld, Option.toList_none, List.append_nil] at hpasses
    refine ⟨hpasses, ?_⟩
    rw [Traffic.delivered, Traffic.writes_followedBy, Traffic.written_nil,
      Traffic.none_followedBy, finish_writes, List.append_nil]
    exact hplace.written
  cases hend with
  | localEof hsent hend => exact .localEof (h.around.readEnd_eq ▸ hend)
  | localReadFailed hsent hend => exact .localReadFailed (h.around.readEnd_eq ▸ hend)
  | sendFailed hout hopen =>
    -- what was outgoing has not been sent, and the end adds no data frame
    have hrunning := h.outbound.running hrun
    obtain ⟨chunk, chunks, hchunks⟩ := List.exists_cons_of_ne_nil hout
    have hunsent : (t.followedBy ((Traffic.written []).followedBy
        (q.emptied.finish (.remoteSendFailed sendFault)).2)).sent ++ chunk :: chunks
          = cut (Event.written es) := by
      rw [Traffic.written_nil, Traffic.none_followedBy, Traffic.sent_followedBy, finish_sent,
        List.append_nil, ← hchunks]
      exact hrunning
    exact .remoteSendFailed (hdrop.mp hopen) hunsent
  | @writeFailed payload fault writes hheld hdel =>
    have hpasses := hplace.passes
    rw [hheld, Option.toList_some] at hpasses
    exact .localWriteFailed hpasses (h.around.undeliverable hdel)
  | transportEnded hheld hread hopen =>
    rw [hlimits] at hread
    obtain ⟨hpasses, hdone⟩ := hat hheld
    exact .remoteReadFailed hpasses hdone (.ended hread (hdrop.mp hopen))
  | broken hheld hread =>
    rw [hlimits] at hread
    obtain ⟨hpasses, hdone⟩ := hat hheld
    exact .remoteReadFailed hpasses hdone (.refused hread)
  | pongFailed hread hopen =>
    obtain ⟨hheld, hread⟩ := hread
    rw [hlimits] at hread
    obtain ⟨hpasses, hdone⟩ := hat hheld
    exact .remoteReadFailed hpasses hdone (.unanswered hread (hdrop.mp hopen))
  | remoteClosed hread =>
    obtain ⟨hheld, hread⟩ := hread
    rw [hlimits] at hread
    obtain ⟨hpasses, hdone⟩ := hat hheld
    exact .remoteClosed hpasses hdone hread
  | deadline hlimit hle =>
    exact .deadline (h.around.deadline_eq ▸ hlimit) (h.around.elapsed_eq ▸ hle)

theorem move (h : Account limits deadline es q t) (hrun : q.cause = none) (hmove : Move q u s) :
    Account limits deadline es s (t.followedBy u) := by
  refine ⟨h.inbound.move hrun hmove, h.outbound.move hrun hmove, h.around.keeps hmove.keeps, ?_⟩
  intro cause hc
  cases hmove with
  | ended hend =>
    cases hc
    exact h.ends hrun hend
  | _ => cases hrun.symm.trans hc

theorem absorb (h : Account limits deadline es q t) (hrun : q.cause = none)
    (hsettled : Settled q) (e : Event) : Account limits deadline (es ++ [e]) (q.absorb e) t where
  inbound := h.inbound.absorb hrun e
  outbound := h.outbound.absorb hrun hsettled e
  around := h.around.absorb e
  grounds cause hc := by
    rw [absorb_cause, hrun] at hc
    cases hc

/-- A relay that is called off keeps its account. -/
theorem cancel (h : Account limits deadline es q t) (hrun : q.cause = none) :
    Account limits deadline (es ++ [.cancel]) (q.finish .cancelled).1
      (t.followedBy (q.finish .cancelled).2) where
  inbound := h.inbound.cancel hrun
  outbound := h.outbound.cancel hrun
  around := (h.around.absorb .cancel).keeps ⟨rfl, rfl, rfl, rfl, rfl, .inl rfl⟩
  grounds cause hc := by
    cases hc
    exact .cancelled List.getLast?_concat

end Account

/-- Every relay that has ended had grounds to, when it ended. -/
theorem session_account (limits : Limits) (deadline : Option Duration) (script : List Event) :
    let begun : Relay := { limits := limits, deadline := deadline }
    ∃ front rest, script = front ++ rest ∧ begun.session front = begun.session script ∧
      ((begun.session script).1.cause = none → rest = []) ∧
      Account limits deadline front (begun.session script).1 (begun.session script).2 := by
  intro begun
  refine session_upto (P := Account limits deadline) rfl ?_ ?_ ?_ ?_ script
  · refine ⟨.begun limits deadline, .begun limits deadline, ?_, nofun⟩
    exact ⟨rfl, rfl, rfl, rfl, rfl, by simp⟩
  · exact fun hrun h hmove => h.move hrun hmove
  · exact fun hrun hsettled h _ => h.absorb hrun hsettled _
  · exact fun hrun _ h => h.cancel hrun

end Relay

end Carrier
