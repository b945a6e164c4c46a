import Carrier.Proofs.Forwarder.Shutdown
import Mathlib.Data.List.Perm.Basic

/-!
# The account of a forwarder

Each connection that a forwarder has accepted is accounted for once: by the record of its dial that
failed, by the record of its relay that has ended, or, without a record, as one that was given up
or is still looked after.

- `LogRecord.tellsFailure`, `LogRecord.tellsClose`, `LogRecord.tellsBreakdown`: the records of
  connections.
- `Connection.record?`: the record that a connection has come to.
- `Connection.Becomes`: what becomes of a connection, by what has happened to it.
- `ForwarderEvent.accepted`: how many connections a script has accepted.
- `Forwarder.step_records`, `Forwarder.run_records`: what is logged of connections is what they have
  come to.
- `Forwarder.run_accounted`: the account.
-/

namespace Carrier

/-! ### Records of connections -/

namespace LogRecord

/-- Whether a record is that of a dial that failed. -/
def tellsFailure (r : LogRecord) : Bool :=
  decide (r.level = .error) &&
    "Failed to establish carrier connection".toList.isPrefixOf r.message.toList

/-- Whether a record is that of a relay that ended well. -/
def tellsClose (r : LogRecord) : Bool :=
  decide (r.level = .info) && decide (r.message = "Carrier connection closed")

/-- Whether a record is that of a relay that failed. -/
def tellsBreakdown (r : LogRecord) : Bool :=
  decide (r.level = .warn) &&
    "Carrier connection ended with error".toList.isPrefixOf r.message.toList

/-- Whether a record is that of a connection. -/
def tellsConnection (r : LogRecord) : Bool := r.tellsFailure || r.tellsClose || r.tellsBreakdown

end LogRecord

namespace Connection

/-- The record that a connection has come to: why its dial failed, or how its relay ended, with the
octets that it counted. -/
def record? : Connection → Option LogRecord
  | .failed cause =>
    some
      { level := .error
        message := "Failed to establish carrier connection: " ++ (TunnelError.dial cause).message
        fields := [] }
  | .relayed r =>
    match r.result? with
    | none => none
    | some (.ok summary) =>
      some
        { level := .info
          message := "Carrier connection closed"
          fields := [("end", summary.ending.name), ("bytes_to_remote", toString summary.toRemote),
            ("bytes_to_local", toString summary.toLocal)] }
    | some (.error e) =>
      some
        { level := .warn
          message := "Carrier connection ended with error: " ++ e.message
          fields := [] }
  | _ => none

/-- Whether a connection was given up before it had a WebSocket. -/
def isAbandoned : Connection → Bool
  | .abandoned => true
  | _ => false

theorem record?_failed (cause : DialError) :
    (Connection.failed cause).record? = some (dialRecord cause) := rfl

theorem record?_relayed (r : Relay) :
    (Connection.relayed r).record? = r.result?.map endRecord := by
  unfold record?
  dsimp only
  cases r.result? with
  | none => rfl
  | some result => cases result <;> rfl

theorem dialRecord_tells (cause : DialError) :
    (dialRecord cause).tellsFailure = true ∧ (dialRecord cause).tellsClose = false ∧
      (dialRecord cause).tellsBreakdown = false := by
  refine ⟨?_, rfl, rfl⟩
  simp [LogRecord.tellsFailure, dialRecord, String.toList_append]

theorem endRecord_tells (result : Except TunnelError Summary) :
    (endRecord result).tellsFailure = false ∧
      ((endRecord result).tellsClose = true ∧ (endRecord result).tellsBreakdown = false ∨
        (endRecord result).tellsClose = false ∧ (endRecord result).tellsBreakdown = true) := by
  cases result with
  | ok summary => exact ⟨rfl, .inl ⟨rfl, rfl⟩⟩
  | error e =>
    refine ⟨rfl, .inr ⟨rfl, ?_⟩⟩
    simp [LogRecord.tellsBreakdown, endRecord, String.toList_append]

/-- What a connection leaves is a record of a connection. -/
theorem record?_tells {c : Connection} {r : LogRecord} (h : c.record? = some r) :
    r.tellsConnection = true := by
  unfold LogRecord.tellsConnection
  cases c with
  | failed cause =>
    rw [← Option.some.inj h]
    show ((dialRecord cause).tellsFailure || _ || _) = true
    rw [(dialRecord_tells cause).1]
    rfl
  | relayed relay =>
    rw [record?_relayed] at h
    obtain ⟨result, -, rfl⟩ := Option.map_eq_some_iff.mp h
    obtain ⟨-, ⟨hclose, -⟩ | ⟨-, hbreakdown⟩⟩ := endRecord_tells result
    · simp [hclose]
    · simp [hbreakdown]
  | _ => cases h

/-- A connection is accounted for in one of five ways. -/
theorem accounted_once (c : Connection) :
    c.record?.toList.countP LogRecord.tellsFailure + c.record?.toList.countP LogRecord.tellsClose
      + c.record?.toList.countP LogRecord.tellsBreakdown + c.isAbandoned.toNat + c.isHandled.toNat
      = 1 := by
  cases c with
  | failed cause =>
    obtain ⟨hfailure, hclose, hbreakdown⟩ := dialRecord_tells cause
    rw [record?_failed, Option.toList_some]
    simp [hfailure, hclose, hbreakdown, isAbandoned, isHandled]
  | relayed r =>
    rw [record?_relayed, Relay.result?, Option.map_map]
    cases hcause : r.cause with
    | none => simp [isAbandoned, isHandled, hcause]
    | some cause =>
      rw [Option.map_some, Option.toList_some, Function.comp_apply]
      obtain ⟨hfailure, ⟨hclose, hbreakdown⟩ | ⟨hclose, hbreakdown⟩⟩ :=
        endRecord_tells (cause.result r.toRemote r.toLocal)
      all_goals
        simp [hfailure, hclose, hbreakdown, isAbandoned, isHandled, hcause]
  | abandoned => rfl
  | connecting waiting => rfl

/-! ### One event -/

/-- What an event makes a connection report is the record that it has come to. -/
theorem step_record (c : Connection) (e : ConnectionEvent) :
    (c.step e).1.record?.toList = c.record?.toList ++ (c.step e).2.2 := by
  have hafter (step : Relay × Traffic) :
      (afterRelay step).1.record?.toList = (afterRelay step).2.2 := by
    show (Connection.relayed step.1).record?.toList = (step.1.result?.map endRecord).toList
    rw [record?_relayed]
  cases c with
  | connecting waiting =>
    cases e with
    | established => exact hafter waiting.settle
    | dialFailed cause => rfl
    | _ => rfl
  | relayed r =>
    have hrelay (event : Event) : (relayStep r event).1.record?.toList
        = (Connection.relayed r).record?.toList ++ (relayStep r event).2.2 := by
      unfold relayStep
      cases hcause : r.cause with
      | some cause => exact (List.append_nil _).symm
      | none =>
        have hnone : (Connection.relayed r).record? = none := by
          rw [record?_relayed, Relay.result?, hcause]
          rfl
        rw [hnone]
        exact hafter (r.step event)
    cases e with
    | advance span => exact hrelay (.advance span)
    | relay event =>
      show (if isOwn event then relayStep r event else _).1.record?.toList
        = _ ++ (if isOwn event then relayStep r event else _).2.2
      split
      · exact hrelay event
      · exact (List.append_nil _).symm
    | _ => exact (List.append_nil _).symm
  | failed cause => cases e <;> exact (List.append_nil _).symm
  | abandoned => cases e <;> rfl

theorem accept_record (limits : Limits) (deadline : Option Duration) (dial : DialOutcome) :
    (accept limits deadline dial).1.record?.toList = (accept limits deadline dial).2.2 := by
  cases dial with
  | pending => rfl
  | established => exact step_record _ .established
  | failed cause => rfl

/-- All that a connection reports are records of connections. -/
theorem step_tells (c : Connection) (e : ConnectionEvent) :
    ∀ r ∈ (c.step e).2.2, r.tellsConnection = true := by
  intro r hr
  have hmem : r ∈ (c.step e).1.record?.toList := by
    rw [step_record]
    exact List.mem_append_right _ hr
  exact record?_tells (Option.mem_toList.mp hmem)

/-! ### What has happened to a connection -/

/-- What becomes of an accepted connection whose dial comes to what is given, when the events of a
list have reached it; `begun` is the relay that its sides wait for. -/
inductive Becomes (begun : Relay) : DialOutcome → List ConnectionEvent → Connection → Prop where
  /-- Nothing has decided the dial. -/
  | connecting {es : List ConnectionEvent} (waits : ∀ e ∈ es, e.decides = false) :
    Becomes begun .pending es (.connecting ((es.filterMap (·.own?)).foldl Relay.absorb begun))
  /-- The dial has failed at once. -/
  | failedAtOnce (cause : DialError) (es : List ConnectionEvent) :
    Becomes begun (.failed cause) es (.failed cause)
  /-- The dial has failed later. -/
  | failed {waiting : List ConnectionEvent} (waits : ∀ e ∈ waiting, e.decides = false)
    (cause : DialError) (es : List ConnectionEvent) :
    Becomes begun .pending (waiting ++ .dialFailed cause :: es) (.failed cause)
  /-- The forwarder was shut down before the dial came to anything. -/
  | abandoned {waiting : List ConnectionEvent} (waits : ∀ e ∈ waiting, e.decides = false)
    (es : List ConnectionEvent) : Becomes begun .pending (waiting ++ .shutdown :: es) .abandoned
  /-- The dial has succeeded, and the relay goes on or has ended. -/
  | relayed {dial : DialOutcome} {es : List ConnectionEvent} {early late : List Event}
    (dialed : Dialed dial es early late) :
    Becomes begun dial es (.relayed ((early.foldl Relay.absorb begun).session late).1)

/-- What has happened to a connection makes it what it becomes. -/
theorem run_of_becomes {limits : Limits} {deadline : Option Duration} {dial : DialOutcome}
    {es : List ConnectionEvent} {c : Connection}
    (h : Becomes { limits := limits, deadline := deadline } dial es c) :
    ((accept limits deadline dial).1.run es).1 = c := by
  cases h with
  | connecting waits => exact congrArg Prod.fst (run_waiting _ waits)
  | failedAtOnce cause => exact congrArg Prod.fst (run_failed cause es)
  | failed waits cause es =>
    show ((Connection.connecting _).run _).1 = _
    rw [run_append, run_waiting _ waits]
    exact congrArg Prod.fst (run_failed cause es)
  | abandoned waits es =>
    show ((Connection.connecting _).run _).1 = _
    rw [run_append, run_waiting _ waits]
    exact congrArg Prod.fst (run_abandoned es)
  | relayed dialed => exact (run_dialed limits deadline dialed).1

/-- Something becomes of every connection. -/
theorem exists_becomes (begun : Relay) (dial : DialOutcome) (es : List ConnectionEvent) :
    ∃ c, Becomes begun dial es c := by
  cases dial with
  | established => exact ⟨_, .relayed (.atOnce es)⟩
  | failed cause => exact ⟨_, .failedAtOnce cause es⟩
  | pending =>
    rcases decides_cases es with hwaits | ⟨waiting, e, rest, rfl, hwaits, hdecides⟩
    · exact ⟨_, .connecting hwaits⟩
    · cases e with
      | established => exact ⟨_, .relayed (.later hwaits rest)⟩
      | dialFailed cause => exact ⟨_, .failed hwaits cause rest⟩
      | shutdown => exact ⟨_, .abandoned hwaits rest⟩
      | _ => cases hdecides

theorem becomes_iff {limits : Limits} {deadline : Option Duration} {dial : DialOutcome}
    {es : List ConnectionEvent} {c : Connection} :
    Becomes { limits := limits, deadline := deadline } dial es c ↔
      ((accept limits deadline dial).1.run es).1 = c := by
  constructor
  · exact run_of_becomes
  · rintro rfl
    obtain ⟨c, hc⟩ := exists_becomes { limits := limits, deadline := deadline } dial es
    rw [run_of_becomes hc]
    exact hc

end Connection

/-! ### Which connections there are -/

/-- Whether an event is that a client connects. -/
def ForwarderEvent.isClient : ForwarderEvent → Bool
  | .accept _ => true
  | _ => false

/-- How many connections a script has accepted: the clients that have come before the shutdown. -/
def ForwarderEvent.accepted (script : List ForwarderEvent) : Nat :=
  (script.takeWhile fun e => decide (e ≠ .shutdown)).countP isClient

namespace Forwarder

theorem run_length_accepted {f : Forwarder} (hopen : f.accepting = true)
    (script : List ForwarderEvent) :
    (f.run script).1.connections.length
      = f.connections.length + ForwarderEvent.accepted script := by
  induction script generalizing f with
  | nil => rfl
  | cons e es ih =>
    rw [run_cons]
    by_cases hshutdown : e = .shutdown
    · subst hshutdown
      have hclosed : (f.step .shutdown).1.accepting = false := by rw [step_shutdown hopen]
      rw [run_length hclosed, step_length (.inr fun dial => ForwarderEvent.noConfusion)]
      rfl
    · have hnext : (f.step e).1.accepting = true := (step_accepting f e).mpr ⟨hopen, hshutdown⟩
      have hcount : ForwarderEvent.accepted (e :: es)
          = ForwarderEvent.accepted es + if e.isClient then 1 else 0 := by
        unfold ForwarderEvent.accepted
        rw [List.takeWhile_cons_of_pos (by simpa using hshutdown), List.countP_cons]
      rw [ih hnext, hcount]
      cases e with
      | accept dial =>
        rw [step_accept hopen, List.length_append, List.length_singleton]
        show _ = f.connections.length + (ForwarderEvent.accepted es + 1)
        omega
      | _ =>
        rw [step_length (.inr fun dial => ForwarderEvent.noConfusion)]
        rfl

/-- Each connection is what has become of one that was accepted. -/
theorem run_becomes {f : Forwarder} (hnone : f.connections = []) {script : List ForwarderEvent}
    {index : Nat} {c : Connection} (h : (f.run script).1.connections[index]? = some c) :
    ∃ before dial after, script = before ++ .accept dial :: after ∧
      (f.run before).1.accepting = true ∧ (f.run before).1.connections.length = index ∧
      Connection.Becomes { limits := f.limits, deadline := f.deadline } dial
        (after.filterMap (·.at? index)) c := by
  obtain ⟨before, dial, after, hscript, hopen, hindex, hc, -⟩ := run_accepted hnone h
  exact ⟨before, dial, after, hscript, hopen, hindex, Connection.becomes_iff.mpr hc.symm⟩

/-! ### What is logged -/

/-- The records that the connections of a forwarder have come to. -/
def records (f : Forwarder) : List LogRecord := f.connections.filterMap Connection.record?

theorem filter_tells {logs : List LogRecord} (h : ∀ r ∈ logs, r.tellsConnection = true) :
    logs.filter LogRecord.tellsConnection = logs := List.filter_eq_self.mpr h

/-- An event for all connections makes them report the records that they have come to. -/
theorem stepAll_records (e : ConnectionEvent) (first : Nat) (cs : List Connection) :
    ((stepAll e first cs).1.filterMap Connection.record?).Perm
        (cs.filterMap Connection.record? ++ (stepAll e first cs).2.logs) ∧
      ∀ r ∈ (stepAll e first cs).2.logs, r.tellsConnection = true := by
  induction cs generalizing first with
  | nil => exact ⟨.refl _, nofun⟩
  | cons c rest ih =>
    obtain ⟨hperm, htells⟩ := ih (first + 1)
    constructor
    · show (((c.step e).1 :: (stepAll e (first + 1) rest).1).filterMap _).Perm
        (_ ++ ((c.step e).2.2 ++ (stepAll e (first + 1) rest).2.logs))
      rw [filterMap_cons_toList, filterMap_cons_toList, c.step_record e]
      rw [List.perm_iff_count] at hperm ⊢
      intro r
      have hr := hperm r
      simp only [List.count_append] at hr ⊢
      omega
    · intro r hr
      rcases List.mem_append.mp hr with hfirst | hrest
      · exact c.step_tells e r hfirst
      · exact htells r hrest

/-- One connection that comes to a record, among others that stay as they are. -/
theorem set_records {cs : List Connection} {index : Nat} {c next : Connection}
    {logs : List LogRecord} (hget : cs[index]? = some c)
    (hnext : next.record?.toList = c.record?.toList ++ logs) :
    ((cs.set index next).filterMap Connection.record?).Perm
      (cs.filterMap Connection.record? ++ logs) := by
  induction cs generalizing index with
  | nil => cases hget
  | cons d rest ih =>
    rw [List.perm_iff_count]
    intro r
    cases index with
    | zero =>
      cases hget
      rw [List.set_cons_zero, filterMap_cons_toList, filterMap_cons_toList, hnext]
      simp only [List.count_append]
      omega
    | succ index =>
      have hrest := List.perm_iff_count.mp (ih hget) r
      rw [List.set_cons_succ, filterMap_cons_toList, filterMap_cons_toList]
      simp only [List.count_append] at hrest ⊢
      omega

theorem shutdownRecords_tell : shutdownRecords.filter LogRecord.tellsConnection = [] := rfl

theorem acceptRecord_tells (fault : IoFault) : (acceptRecord fault).tellsConnection = false := by
  have hbreakdown : (acceptRecord fault).tellsBreakdown = false := by
    unfold LogRecord.tellsBreakdown acceptRecord
    rw [String.toList_append]
    rfl
  show (false || false || (acceptRecord fault).tellsBreakdown) = false
  rw [hbreakdown]
  rfl

/-- What is logged of connections in a step is what they have come to in it. -/
theorem step_records (f : Forwarder) (e : ForwarderEvent) :
    (f.step e).1.records.Perm
      (f.records ++ (f.step e).2.logs.filter LogRecord.tellsConnection) := by
  cases e with
  | accept dial =>
    cases hopen : f.accepting with
    | false =>
      rw [step_accept_closed hopen]
      exact .of_eq (List.append_nil _).symm
    | true =>
      have haccept := Connection.accept_record f.limits f.deadline dial
      have htells : ∀ r ∈ (Connection.accept f.limits f.deadline dial).2.2,
          r.tellsConnection = true := by
        rw [← haccept]
        exact fun r hr => Connection.record?_tells (Option.mem_toList.mp hr)
      rw [step_accept hopen, filter_tells htells]
      show ((f.connections ++ [_]).filterMap _).Perm _
      rw [List.filterMap_append, filterMap_cons_toList, haccept, List.filterMap_nil,
        List.append_nil]
      exact .refl _
  | acceptFault fault =>
    have hnone : (f.step (.acceptFault fault)).2.logs.filter LogRecord.tellsConnection = [] := by
      show (if f.accepting then [acceptRecord fault] else []).filter _ = []
      split
      · rw [List.filter_cons_of_neg (by rw [acceptRecord_tells]; nofun)]
        rfl
      · rfl
    rw [hnone, List.append_nil]
    exact .refl _
  | connection i e =>
    show (f.stepOne i e).1.records.Perm (_ ++ (f.stepOne i e).2.logs.filter _)
    rcases stepOne_cases f i e with ⟨-, hstep⟩ | ⟨d, -, hget, hstep⟩
    · rw [hstep]
      exact .of_eq (List.append_nil _).symm
    · rw [hstep, filter_tells (d.step_tells e)]
      exact set_records hget (d.step_record e)
  | advance span =>
    obtain ⟨hperm, htells⟩ := stepAll_records (.advance span) 0 f.connections
    show List.Perm _ (_ ++ (stepAll (.advance span) 0 f.connections).2.logs.filter _)
    rw [filter_tells htells]
    exact hperm
  | shutdown =>
    cases hopen : f.accepting with
    | false =>
      rw [step_shutdown_closed hopen]
      exact .of_eq (List.append_nil _).symm
    | true =>
      obtain ⟨hperm, htells⟩ := stepAll_records .shutdown 0 f.connections
      rw [step_shutdown hopen, List.filter_append, shutdownRecords_tell, filter_tells htells]
      exact hperm

/-- What is logged of connections over a script is what they have come to in the end. -/
theorem run_records (f : Forwarder) (script : List ForwarderEvent) :
    (f.run script).1.records.Perm
      (f.records ++ (f.run script).2.logs.filter LogRecord.tellsConnection) := by
  induction script generalizing f with
  | nil => exact .of_eq (List.append_nil _).symm
  | cons e es ih =>
    rw [run_cons]
    refine (ih (f.step e).1).trans ?_
    show List.Perm _ (_ ++ ((f.step e).2.logs ++ _).filter _)
    rw [List.filter_append, ← List.append_assoc]
    exact (step_records f e).append_right _

/-- As many connections as there are records, given up and looked after. -/
theorem length_eq_account (cs : List Connection) :
    cs.length = (cs.filterMap Connection.record?).countP LogRecord.tellsFailure
      + (cs.filterMap Connection.record?).countP LogRecord.tellsClose
      + (cs.filterMap Connection.record?).countP LogRecord.tellsBreakdown
      + cs.countP Connection.isAbandoned + cs.countP Connection.isHandled := by
  induction cs with
  | nil => rfl
  | cons c rest ih =>
    have hone := c.accounted_once
    rw [filterMap_cons_toList, List.length_cons, List.countP_cons, List.countP_cons]
    simp only [List.countP_append]
    cases habandoned : c.isAbandoned <;> cases hhandled : c.isHandled <;>
      simp only [habandoned, hhandled, Bool.toNat_true, Bool.toNat_false] at hone <;>
      simp <;> omega

/-- A kind of records of connections is logged as often as connections have come to it. -/
theorem countP_records {f : Forwarder} {logs : List LogRecord}
    (h : f.records.Perm (logs.filter LogRecord.tellsConnection)) {p : LogRecord → Bool}
    (hp : ∀ r, p r = true → r.tellsConnection = true) : f.records.countP p = logs.countP p := by
  rw [h.countP_eq, List.countP_filter]
  refine List.countP_congr fun r _ => ?_
  constructor
  · intro hr
    exact (Bool.and_eq_true_iff.mp hr).1
  · intro hr
    exact Bool.and_eq_true_iff.mpr ⟨hr, hp r hr⟩

/-- After every script each connection that a forwarder has accepted is accounted for once. Their
number is that of the dials that are logged to have failed, the relays that are logged to have ended
well or failed, the connections that were given up at the shutdown, and those that are still looked
after. The records of connections in the log are the records that the connections have come to, one
for each that has come to one; and every connection is what its own dial and its own relay have
made of it. -/
theorem run_accounted (options : DialOptions) (address : SocketAddress) (limits : Limits)
    (deadline : Option Duration) (script : List ForwarderEvent) :
    let f : Forwarder :=
      { options := options, address := address, limits := limits, deadline := deadline }
    let last := f.run script
    let logs := last.2.logs
    last.1.connections.length = ForwarderEvent.accepted script ∧
    ForwarderEvent.accepted script
      = logs.countP LogRecord.tellsFailure + logs.countP LogRecord.tellsClose
        + logs.countP LogRecord.tellsBreakdown
        + last.1.connections.countP Connection.isAbandoned + last.1.handlers ∧
    (logs.filter LogRecord.tellsConnection).Perm
      (last.1.connections.filterMap Connection.record?) ∧
    ∀ (index : Nat) (c : Connection), last.1.connections[index]? = some c →
      (c.record?.toList.countP LogRecord.tellsFailure + c.record?.toList.countP LogRecord.tellsClose
        + c.record?.toList.countP LogRecord.tellsBreakdown + c.isAbandoned.toNat
        + c.isHandled.toNat = 1) ∧
      ∃ before dial after, script = before ++ .accept dial :: after ∧ .shutdown ∉ before ∧
        ForwarderEvent.accepted before = index ∧
        c.Becomes { limits := limits, deadline := deadline } dial
          (after.filterMap (·.at? index)) := by
  intro f last logs
  have hrecords : last.1.records.Perm (logs.filter LogRecord.tellsConnection) := run_records f script
  have hlength : last.1.connections.length = ForwarderEvent.accepted script := by
    rw [run_length_accepted rfl]
    exact Nat.zero_add _
  refine ⟨hlength, ?_, hrecords.symm, fun index c hget => ⟨c.accounted_once, ?_⟩⟩
  · have hfailure := countP_records hrecords (p := LogRecord.tellsFailure) fun r hr => by
      simp [LogRecord.tellsConnection, hr]
    have hclose := countP_records hrecords (p := LogRecord.tellsClose) fun r hr => by
      simp [LogRecord.tellsConnection, hr]
    have hbreakdown := countP_records hrecords (p := LogRecord.tellsBreakdown) fun r hr => by
      simp [LogRecord.tellsConnection, hr]
    rw [← hlength, length_eq_account, ← hfailure, ← hclose, ← hbreakdown]
    rfl
  · obtain ⟨before, dial, after, hscript, hopen, hindex, hbecomes⟩ := run_becomes rfl hget
    refine ⟨before, dial, after, hscript, ((run_accepting f before).mp hopen).2, ?_, hbecomes⟩
    rw [← hindex, run_length_accepted rfl]
    exact (Nat.zero_add _).symm

end Forwarder

end Carrier
