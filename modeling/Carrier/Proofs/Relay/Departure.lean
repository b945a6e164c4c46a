import Carrier.Proofs.Relay.Causes
import Carrier.Proofs.Relay.Gone
import Carrier.Proofs.WebSocket.Refusal

/-!
# What the other end leaves behind

When the application only takes what comes, a relay hands over all messages that have come before
it ends, with one exception: once the other end has gone, a ping cannot be answered, and the
messages behind it are lost.

- `Event.isPassive`: the events where the application only takes what comes.
- `beforePing`: the messages that octets hold before the first ping.
- `Relay.Grounds.received`: what the application has when a relay has ended on that side.
- `Relay.due`, `Relay.Leaving`: what a relay still hands over when the other end has gone.
- `Relay.session_received`: what the application has when a relay has ended.
- `Relay.session_lost`: a message that is lost behind a ping.
-/

namespace Carrier

/-- The application neither writes nor ends its data nor fails to take what comes, and the relay
is not called off. -/
def Event.isPassive : Event → Bool
  | .localWrite _ | .localEnd _ | .localWriteFault _ | .localFlushFault _ | .localTakesNothing
  | .cancel => false
  | _ => true

namespace Event

variable {es : List Event}

theorem dataEnd?_passive (h : ∀ e ∈ es, e.isPassive = true) : dataEnd? es = none := by
  refine List.findSome?_eq_none_iff.mpr fun e he => ?_
  cases e with
  | localEnd how => cases h _ he
  | _ => rfl

theorem writeFault?_passive (h : ∀ e ∈ es, e.isPassive = true) :
    last? writeFault? es = none := by
  refine List.findSome?_eq_none_iff.mpr fun e he => ?_
  cases e with
  | localWriteFault fault => cases h _ (List.mem_reverse.mp he)
  | _ => rfl

theorem flushFault?_passive (h : ∀ e ∈ es, e.isPassive = true) :
    last? flushFault? es = none := by
  refine List.findSome?_eq_none_iff.mpr fun e he => ?_
  cases e with
  | localFlushFault fault => cases h _ (List.mem_reverse.mp he)
  | _ => rfl

theorem written_passive (h : ∀ e ∈ es, e.isPassive = true) : written es = [] := by
  refine List.filterMap_eq_nil_iff.mpr fun e he => ?_
  cases e with
  | localWrite data => cases h _ ((List.takeWhile_prefix _).subset he)
  | _ => rfl

end Event

/-! ### Up to the first ping -/

/-- The payloads of the data messages that octets hold before the first ping. -/
def beforePing (limits : Limits) (pending : Option Fragments) (bytes : Bytes) : List Bytes :=
  assemble limits.message pending
    ((WireFrame.all limits.frame bytes).takeWhile (·.code ≠ Opcode.ping.code))

section BeforePing

variable {limits : Limits} {pending open? : Option Fragments} {bytes rest : Bytes}

theorem beforePing_prefix (limits : Limits) (pending : Option Fragments) (bytes : Bytes) :
    beforePing limits pending bytes <+: incoming limits pending bytes :=
  assemble_mono _ _ (List.takeWhile_prefix _)

theorem beforePing_none (h : incoming limits pending bytes = []) :
    beforePing limits pending bytes = [] := by
  have hprefix := beforePing_prefix limits pending bytes
  rw [h] at hprefix
  exact List.prefix_nil.mp hprefix

theorem beforePing_ping {payload : Bytes}
    (h : Intake.read limits pending bytes = .frame open? (some (.ping payload)) rest) :
    beforePing limits pending bytes = [] := by
  obtain ⟨f, hframe, hplain⟩ := Intake.read_control h rfl
  rw [beforePing, WireFrame.all_frame hframe, List.takeWhile_cons_of_neg (by simp [hplain.code])]
  rfl

theorem beforePing_frame {message : Option Message}
    (h : Intake.read limits pending bytes = .frame open? message rest)
    (hclose : ∀ reply, message ≠ some (.close reply))
    (hping : ∀ payload, message ≠ some (.ping payload)) :
    beforePing limits pending bytes = completed message ++ beforePing limits open? rest := by
  obtain ⟨f, hframe, haccept⟩ := Intake.read_eq_frame.mp h
  have hcode : f.code ≠ Opcode.ping.code := by
    intro hcode
    exact hping f.payload (acceptFrame_ping haccept hcode)
  rw [beforePing, WireFrame.all_frame hframe, List.takeWhile_cons_of_pos (by simpa using hcode),
    assemble_ok haccept hclose]
  rfl

end BeforePing

namespace Relay

variable {limits : Limits} {es : List Event} {t : Traffic} {cause : Cause}

/-! ### Grounds on the other side -/

/-- An application that only takes what comes takes all of it. -/
theorem Undeliverable.not_passive {payload : Bytes} {fault : IoFault}
    (h : Undeliverable es payload fault) : ¬ ∀ e ∈ es, e.isPassive = true := by
  intro hpassive
  cases h with
  | unwritten hsome hfault => cases (Event.writeFault?_passive hpassive).symm.trans hfault
  | untaken hsome htakes => cases hpassive _ htakes
  | unflushed hfault => cases (Event.flushFault?_passive hpassive).symm.trans hfault

/-- A relay whose application only takes what comes hands over all that has come, or is stopped by
a ping that it cannot answer. -/
theorem Grounds.received (h : Grounds limits none es t cause)
    (hpassive : ∀ e ∈ es, e.isPassive = true) (more : List Event) :
    t.delivered = (incoming limits none (Event.arrived (es ++ more))).flatten ∨
      cause = .remoteReadFailed sendFault ∧ .remoteDrop ∈ es ++ more ∧
        ∃ f ∈ WireFrame.all limits.frame (Event.arrived (es ++ more)), f.Plain .ping := by
  obtain ⟨octets, hoctets⟩ := Event.arrived_mono es more
  cases h with
  -- the application and the clock have given no reason
  | localEof hend => cases (Event.dataEnd?_passive hpassive).symm.trans hend
  | localReadFailed hend => cases (Event.dataEnd?_passive hpassive).symm.trans hend
  | localWriteFailed hpasses hfault => exact absurd hpassive hfault.not_passive
  | remoteSendFailed hdrop hunsent => simp [Event.written_passive hpassive, cut] at hunsent
  | cancelled hlast => cases hpassive _ (List.mem_of_getLast? hlast)
  | deadline hlimit hle => cases hlimit
  -- where nothing more can be read, the messages passed are all
  | remoteClosed hpasses hdone hread =>
    have hall := (hpasses.append octets).incoming
    rw [incoming_close (Intake.read_append octets hread), List.append_nil] at hall
    rw [← hoctets, hall]
    exact .inl hdone
  | remoteReadFailed hpasses hdone hfault =>
    cases hfault with
    | refused hread =>
      have hall := (hpasses.append octets).incoming
      rw [incoming_broken (Intake.read_broken_append octets hread), List.append_nil] at hall
      rw [← hoctets, hall]
      exact .inl hdone
    | ended hread hdrop =>
      have hall := hpasses.incoming
      rw [incoming_incomplete hread, List.append_nil] at hall
      rw [Event.arrived_dropped hdrop, hall]
      exact .inl hdone
    | unanswered hread hdrop =>
      obtain ⟨f, hframe, hplain⟩ := Intake.read_control hread rfl
      obtain ⟨fs, hall⟩ := hpasses.all
      refine .inr ⟨rfl, List.mem_append_left more hdrop, f, ?_, hplain⟩
      rw [Event.arrived_dropped hdrop, hall, WireFrame.all_frame hframe]
      simp

/-! ### After the other end has gone -/

/-- What a relay still hands over when the other end has gone: the message that waits, and those
before the first ping. -/
def due (r : Relay) : Bytes :=
  r.held.toList.flatten ++ (beforePing r.limits r.pending r.wire.unread).flatten

/-- A relay without its transport, with nothing to do but to hand messages over. -/
structure Willing (r : Relay) : Prop where
  sent : r.app.unread = []
  readEnd : r.app.readEnd = none
  writeFault : r.app.writeFault = none
  flushFault : r.app.flushFault = none
  takes : r.app.takesNothing = false
  deadline : r.deadline = none
  dropped : r.wire.dropped = true

namespace Willing

variable {r s : Relay} {u : Traffic}

theorem keeps (h : Willing r) (hkeeps : r.Keeps s) : Willing s where
  sent := by
    rcases hkeeps.unread with hsame | hnone
    · exact hsame.trans h.sent
    · exact hnone
  readEnd := by
    rw [hkeeps.app]
    exact h.readEnd
  writeFault := by
    rw [hkeeps.app]
    exact h.writeFault
  flushFault := by
    rw [hkeeps.app]
    exact h.flushFault
  takes := by
    rw [hkeeps.app]
    exact h.takes
  deadline := hkeeps.deadline.trans h.deadline
  dropped := hkeeps.dropped.trans h.dropped

theorem absorb (h : Willing r) {e : Event} (he : e.isPassive = true) : Willing (r.absorb e) := by
  cases e with
  | remoteBytes data =>
    simp only [Relay.absorb, if_pos h.dropped]
    exact h
  | localWriteLimit limit => exact ⟨h.1, h.2, h.3, h.4, h.5, h.6, h.7⟩
  | localShutdownFault fault => exact ⟨h.1, h.2, h.3, h.4, h.5, h.6, h.7⟩
  | localStall => exact ⟨h.1, h.2, h.3, h.4, h.5, h.6, h.7⟩
  | localResume => exact ⟨h.1, h.2, h.3, h.4, h.5, h.6, h.7⟩
  | remoteDrop => exact ⟨h.1, h.2, h.3, h.4, h.5, h.6, rfl⟩
  | advance span => exact ⟨h.1, h.2, h.3, h.4, h.5, h.6, h.7⟩
  | _ => cases he

/-- Events do not change what is due. -/
theorem absorb_due (h : Willing r) (e : Event) : (r.absorb e).due = r.due := by
  have hunread : (r.absorb e).wire.unread = r.wire.unread := by
    rw [absorb_unread, if_pos h.dropped, List.append_nil]
  unfold due
  rw [hunread, absorb_eq]

/-- The application takes what it is handed. -/
theorem deliver (h : Willing r) (payload : Bytes) (fault : IoFault) (writes : List Bytes) :
    deliver r.app payload ≠ .failed fault writes := by
  intro hdel
  unfold Relay.deliver at hdel
  simp only [h.writeFault, h.takes, Bool.false_eq_true, if_false] at hdel
  have hflush : ∀ pieces, flush r.app pieces ≠ .failed fault writes := by
    intro pieces hfailed
    cases h.flushFault.symm.trans (flush_failed hfailed).2
  split at hdel
  · exact hflush _ hdel
  · split at hdel
    · cases hdel
    · exact hflush _ hdel

/-- A relay that ends has handed over what was due. -/
theorem ends (h : Willing r) {cause : Cause} {writes : List Bytes} (hend : r.Ends cause writes s) :
    writes = [] ∧ r.due = [] := by
  have hnothing : r.held = none →
      beforePing r.limits r.pending r.wire.unread = [] → r.due = [] := by
    intro hheld hnone
    rw [due, hheld, hnone]
    rfl
  cases hend with
  | localEof hsent hend => cases h.readEnd.symm.trans hend
  | localReadFailed hsent hend => cases h.readEnd.symm.trans hend
  | sendFailed hout hdrop =>
    refine absurd ?_ hout
    rw [outgoing, h.sent]
    rfl
  | writeFailed hheld hdel => exact absurd hdel (h.deliver _ _ _)
  | transportEnded hheld hread hdrop =>
    exact ⟨rfl, hnothing hheld (beforePing_none (incoming_incomplete hread))⟩
  | broken hheld hread =>
    exact ⟨rfl, hnothing hheld (beforePing_none (incoming_broken hread))⟩
  | pongFailed hread hdrop => exact ⟨rfl, hnothing hread.1 (beforePing_ping hread.2)⟩
  | remoteClosed hread =>
    exact ⟨rfl, hnothing hread.1 (beforePing_none (incoming_close hread.2))⟩
  | deadline hlimit hle => cases h.deadline.symm.trans hlimit

/-- Another frame than a ping or a close leaves due what was due behind it. -/
theorem past_due {pending : Option Fragments} {message : Option Message} {rest : Bytes}
    (hread : r.Reads pending message rest) (hclose : ∀ reply, message ≠ some (.close reply))
    (hping : ∀ payload, message ≠ some (.ping payload)) :
    r.due = (completed message).flatten ++ (beforePing r.limits pending rest).flatten := by
  rw [due, hread.1, beforePing_frame hread.2 hclose hping, List.flatten_append]
  rfl

/-- What a move hands over was due, and is due no longer. -/
theorem move (h : Willing r) (hrun : r.cause = none) (hmove : Move r u s) :
    (s.cause = none ∧ u.delivered ++ s.due = r.due) ∨ (s.cause ≠ none ∧ u.delivered = r.due) := by
  cases hmove with
  | sent hopen => exact .inl ⟨hrun, rfl⟩
  | @skipped pending message rest hread hnone =>
    refine .inl ⟨hrun, ?_⟩
    have hsame : (r.past pending rest).due = (beforePing r.limits pending rest).flatten := by
      show r.held.toList.flatten ++ _ = _
      rw [hread.1]
      rfl
    rcases hnone with rfl | ⟨payload, rfl⟩
    · rw [hsame, past_due hread nofun nofun]
      rfl
    · rw [hsame, past_due hread nofun nofun]
      rfl
  | answered hread hopen => cases h.dropped.symm.trans hopen
  | received hread =>
    refine .inl ⟨hrun, ?_⟩
    rw [past_due hread nofun nofun]
    rfl
  | @handed payload writes hheld hdel =>
    refine .inl ⟨hrun, ?_⟩
    show writes.flatten ++ _ = r.held.toList.flatten ++ _
    rw [(deliver_done hdel).1, hheld, Option.toList_some, List.flatten_singleton]
    rfl
  | ended hend =>
    obtain ⟨rfl, hdue⟩ := h.ends hend
    refine .inr ⟨by simp, ?_⟩
    rw [hdue]
    simp [Traffic.delivered, Traffic.written]

end Willing

/-- A relay without its transport, which hands over `octets` in all. -/
structure Leaving (octets : Bytes) (r : Relay) (t : Traffic) : Prop where
  willing : Willing r
  total : (r.cause = none ∧ t.delivered ++ r.due = octets) ∨
    (r.cause ≠ none ∧ t.delivered = octets)

namespace Leaving

variable {octets : Bytes} {r s : Relay} {t u : Traffic}

theorem move (h : Leaving octets r t) (hrun : r.cause = none) (hmove : Move r u s) :
    Leaving octets s (t.followedBy u) := by
  have hdelivered : (t.followedBy u).delivered = t.delivered ++ u.delivered := by
    simp [Traffic.delivered]
  rcases h.total with ⟨-, htotal⟩ | ⟨hend, -⟩
  · refine ⟨h.willing.keeps hmove.keeps, ?_⟩
    rw [hdelivered, List.append_assoc, ← htotal, List.append_right_inj, List.append_right_inj]
    exact h.willing.move hrun hmove
  · exact absurd hrun hend

theorem step (h : Leaving octets r t) {e : Event} (he : e.isPassive = true) :
    Leaving octets (r.step e).1 (t.followedBy (r.step e).2) := by
  by_cases hrun : r.cause = none
  · have hcancel : e ≠ .cancel := by
      rintro rfl
      cases he
    rw [step_settle hrun hcancel]
    have habsorbed : Leaving octets (r.absorb e) t := by
      refine ⟨h.willing.absorb he, ?_⟩
      rw [absorb_cause, h.willing.absorb_due e]
      exact h.total
    refine Moves.carry (fun hrun h hmove => h.move hrun hmove) habsorbed (settle_moves ?_)
    rw [absorb_cause]
    exact hrun
  · rw [step_ended hrun, Traffic.followedBy_none]
    exact h

theorem run (h : Leaving octets r t) {es : List Event} (hes : ∀ e ∈ es, e.isPassive = true) :
    Leaving octets (r.run es).1 (t.followedBy (r.run es).2) := by
  induction es generalizing r t with
  | nil => simpa [Relay.run] using h
  | cons e es ih =>
    simp only [Relay.run, ← Traffic.followedBy_assoc]
    exact ih (h.step (hes e List.mem_cons_self)) fun f hf => hes f (List.mem_cons_of_mem e hf)

end Leaving

/-! ### Whole sessions -/

/-- A relay that waits for the application when the other end goes hands over what is due. -/
theorem Account.leaving {q : Relay} (h : Account limits none es q t) (hrun : q.cause = none)
    (hsettled : Settled q) (hpassive : ∀ e ∈ es, e.isPassive = true) :
    Leaving (t.delivered ++ q.due) q.gone t where
  willing :=
    { sent := hsettled.sent
      readEnd := hsettled.unended
      writeFault := h.around.writeFault_eq.trans (Event.writeFault?_passive hpassive)
      flushFault := h.around.flushFault_eq.trans (Event.flushFault?_passive hpassive)
      takes := by
        rw [← Bool.not_eq_true]
        exact fun htakes => Bool.noConfusion (hpassive _ (h.around.takesNothing_iff.mp htakes))
      deadline := h.around.deadline_eq
      dropped := rfl }
  total := .inl ⟨hrun, rfl⟩

/-- A relay that is under way when the other end goes hands over the message that waits and those
before the next ping. -/
theorem session_leaving (limits : Limits) {front more : List Event}
    (hfront : ∀ e ∈ front, e.isPassive = true) (hmore : ∀ e ∈ more, e.isPassive = true)
    (hrun : (({ limits := limits } : Relay).session front).1.cause = none) :
    let begun : Relay := { limits := limits }
    let before := begun.session front
    let after := begun.session (front ++ .remoteDrop :: more)
    Leaving (before.2.delivered ++ before.1.due) after.1 after.2 := by
  intro begun before after
  obtain ⟨es, rest, hscript, -, hrest, haccount⟩ := session_account limits none front
  rw [hrest hrun, List.append_nil] at hscript
  subst hscript
  have hleaving := haccount.leaving hrun (session_settled hrun) hfront
  -- to go again makes no difference, so that the relay was gone already before the event
  have hgone : before.1.step .remoteDrop = before.1.gone.step .remoteDrop := by
    have hdrop : Event.remoteDrop ≠ .cancel := nofun
    rw [step_settle hrun hdrop, step_settle (show before.1.gone.cause = none from hrun) hdrop]
    rfl
  have hafter : after = (((before.1.gone.step .remoteDrop).1.run more).1,
      before.2.followedBy ((before.1.gone.step .remoteDrop).2.followedBy
        ((before.1.gone.step .remoteDrop).1.run more).2)) := by
    rw [← hgone]
    exact session_append begun front (.remoteDrop :: more)
  rw [hafter, ← Traffic.followedBy_assoc]
  exact (hleaving.step rfl).run hmore

/-- When the application only takes what comes and there is no time limit, a relay that has ended
has handed over all messages that have come, unless the other end went and a ping could not be
answered, which then is the result. A relay that was under way when the other end went has handed
over the message that waited and those before the next ping; those behind it are lost. -/
theorem session_received (limits : Limits) {script : List Event}
    (hpassive : ∀ e ∈ script, e.isPassive = true)
    (hend : (({ limits := limits } : Relay).session script).1.result? ≠ none) :
    let begun : Relay := { limits := limits }
    let t := (begun.session script).2
    let octets := Event.arrived script
    let said := incoming limits none octets
    Conversation limits.message (WireFrame.all limits.frame octets) said ∧
    (.remoteDrop ∉ script ∨ (∀ f ∈ WireFrame.all limits.frame octets, ¬ f.Plain .ping) →
      t.delivered = said.flatten) ∧
    (t.delivered = said.flatten ∨
      (begun.session script).1.result? = some (.error (.relaySocket .toLocal sendFault))) ∧
    ∀ front more, script = front ++ .remoteDrop :: more →
      (begun.session front).1.cause = none →
      let q := (begun.session front).1
      let before := (begun.session front).2.delivered ++ q.held.toList.flatten
      t.delivered = before ++ (beforePing limits q.pending q.wire.unread).flatten ∧
      said.flatten = before ++ (incoming limits q.pending q.wire.unread).flatten := by
  intro begun t octets said
  obtain ⟨front, rest, hscript, hsame, -, haccount⟩ := session_account limits none script
  obtain ⟨result, hresult⟩ := Option.ne_none_iff_exists'.mp hend
  obtain ⟨cause, hcause, -⟩ := Option.map_eq_some_iff.mp hresult
  have hreceived := (haccount.grounds cause hcause).received
    (fun e he => hpassive e (hscript ▸ List.mem_append_left rest he)) rest
  rw [← hscript] at hreceived
  -- the first three say why the relay ended; the last one follows it from the drop on
  refine ⟨conversation_assemble _ _, fun hno => ?_, ?_, fun front more hparts hrun => ?_⟩
  · rcases hreceived with hall | ⟨-, hdrop, f, hf, hplain⟩
    · exact hall
    · rcases hno with hgone | hnone
      · exact absurd hdrop hgone
      · exact absurd hplain (hnone f hf)
  · refine hreceived.imp_right fun hping => ?_
    rw [Relay.result?, hcause, hping.1]
    rfl
  · subst hparts
    have hfront : ∀ e ∈ front, e.isPassive = true :=
      fun e he => hpassive e (List.mem_append_left _ he)
    have hmore : ∀ e ∈ more, e.isPassive = true :=
      fun e he => hpassive e (List.mem_append_right _ (List.mem_cons_of_mem _ he))
    have hinbound := session_inbound limits none front
    obtain ⟨done, hplace⟩ := hinbound.running hrun
    refine ⟨?_, ?_⟩
    · have hended : (begun.session (front ++ .remoteDrop :: more)).1.cause ≠ none := by
        rw [hcause]
        nofun
      rcases (session_leaving limits hfront hmore hrun).total with ⟨hnone, -⟩ | ⟨-, htotal⟩
      · exact absurd hnone hended
      · rw [due, hinbound.limits_eq, ← List.append_assoc] at htotal
        exact htotal
    · -- nothing arrives once the other end has gone
      have harrived : octets = Event.arrived front := by
        show Event.arrived (front ++ .remoteDrop :: more) = _
        rw [← List.singleton_append, ← List.append_assoc,
          Event.arrived_dropped (List.mem_append_right _ List.mem_cons_self), Event.arrived_concat]
        split <;> exact List.append_nil _
      show (incoming limits none octets).flatten = _
      rw [harrived, hplace.incoming, List.flatten_append, List.flatten_append, Traffic.delivered,
        hplace.written]

/-- Two messages come while the application does not take them, and the other end goes. -/
theorem session_received_stalled :
    let script : List Event := [.localStall, .remoteBytes [0x82, 1, 97, 0x82, 1, 98], .remoteDrop,
      .localResume]
    (({} : Relay).session script).2.delivered = [97, 98] := by
  intro script
  have hpassive : ∀ e ∈ script, e.isPassive = true := by decide
  have hend : (({ limits := {} } : Relay).session script).1.result?
      = some (.error (.relaySocket .toLocal (.protocol .resetWithoutClose))) := by decide +kernel
  have hframes : WireFrame.all ({} : Limits).frame (Event.arrived script)
      = [⟨true, 0, 2, none, [97]⟩, ⟨true, 0, 2, none, [98]⟩] := by cbv
  have hpings : ∀ f ∈ WireFrame.all ({} : Limits).frame (Event.arrived script),
      ¬ f.Plain .ping := by
    intro f hf hplain
    have hcode := hplain.code
    rw [hframes] at hf
    rcases List.mem_pair.mp hf with rfl | rfl <;> cases hcode
  calc (({} : Relay).session script).2.delivered
      = (incoming {} none (Event.arrived script)).flatten :=
        (session_received {} hpassive (by simp [hend])).2.1 (.inr hpings)
    _ = [97, 98] := by cbv

/-- With a ping between them the second one is lost. -/
theorem session_lost :
    let script : List Event := [.localStall,
      .remoteBytes [0x82, 1, 97, 0x89, 1, 112, 0x82, 1, 98], .remoteDrop, .localResume]
    (∀ e ∈ script, e.isPassive = true) ∧
    (({} : Relay).session script).1.result?
      = some (.error (.relaySocket .toLocal sendFault)) ∧
    incoming {} none (Event.arrived script) = [[97], [98]] ∧
    (({} : Relay).session script).2.delivered = [97] := by
  refine ⟨by decide, ?_, ?_, ?_⟩
  · decide +kernel
  · cbv
  · decide +kernel

end Relay

end Carrier
