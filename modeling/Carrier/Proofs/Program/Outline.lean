import Carrier.Program.Run
import Carrier.Proofs.Config.Tokens
import Carrier.Proofs.Dial.Outline

/-!
# Processes without the service token

What a process carries and reports does not depend on the secrets among the headers of its options:
one whose secrets are outlined does the same in every step, and sends outlined requests.

- `TunnelProcess.step_outlined`: the process that carries its standard streams.
- `Forwarder.step_outlined`, `ListenerProcess.step_outlined`: the process that listens.
- `Program.step_outlined`: one event for the program.
- `Program.states_alike`: all events for two programs that have one outline.
-/

namespace Carrier

/-! ### Standard streams -/

namespace Stdio

/-- A tunnel with the secrets among its headers outlined. -/
def outlined (s : Stdio) : Stdio := { s with options := s.options.outlined }

theorem step_outlined (s : Stdio) (e : StdioEvent) :
    s.outlined.step e = ((s.step e).1.outlined, (s.step e).2) := by
  obtain ⟨options, phase, relay⟩ := s
  cases e with
  | relay e =>
    cases phase with
    | connecting => cases e <;> rfl
    | _ => rfl
  | _ => cases phase <;> rfl

end Stdio

namespace TunnelProcess

/-- A process with the secrets among its headers outlined. -/
def outlined (p : TunnelProcess) : TunnelProcess := { p with tunnel := p.tunnel.outlined }

/-- A process that begins with outlined options. -/
theorem start_outlined (d : Dialer) (o : DialOptions) (deadline : Option Duration) :
    start d o.outlined deadline =
      ((start d o deadline).1.outlined, (start d o deadline).2) := by
  simp only [start, Stdio.start, DialOptions.validate_outlined]
  cases o.validate <;> rfl

theorem dialed_outlined (p : TunnelProcess) (key : HeaderValue) (origin : Origin) :
    p.outlined.dialed key origin = ((p.dialed key origin).1.outlined, (p.dialed key origin).2) := by
  obtain ⟨dialer, ⟨options, phase, relay⟩, there⟩ := p
  cases phase with
  | connecting =>
    simp only [dialed, outlined, Stdio.outlined, Dialer.dial_outlined]
    cases dialer.dial options key origin <;> rfl
  | _ => rfl

/-- One event does the same to a process without the secrets. -/
theorem step_outlined (p : TunnelProcess) (e : TunnelEvent) :
    p.outlined.step e = ((p.step e).1.outlined, (p.step e).2) := by
  obtain ⟨dialer, tunnel, phase⟩ := p
  cases phase with
  | running =>
    cases e with
    | dial key origin => exact dialed_outlined _ key origin
    | interrupt =>
      simp only [step, outlined, Stdio.step_outlined]
      rfl
    | relay event =>
      cases event with
      | cancel => rfl
      | _ =>
        simp only [step, outlined, Stdio.step_outlined]
        rfl
  | lingering reading writing => cases e <;> rfl
  | ended => cases e <;> rfl

/-- The request of a process without the secrets is the outline of its request. -/
theorem request?_outlined (p : TunnelProcess) (e : TunnelEvent) :
    p.outlined.request? e = (p.request? e).map SentRequest.outlined := by
  cases e with
  | dial key origin =>
    obtain ⟨dialer, ⟨options, phase, relay⟩, there⟩ := p
    cases phase with
    | connecting => exact Dialer.sent?_outlined dialer options key origin
    | _ => rfl
  | _ => rfl

@[simp] theorem exit?_outlined (p : TunnelProcess) : p.outlined.exit? = p.exit? := rfl

end TunnelProcess

/-! ### Listeners -/

namespace Forwarder

/-- A forwarder with the secrets among its headers outlined. -/
def outlined (f : Forwarder) : Forwarder := { f with options := f.options.outlined }

theorem bind_outlined (system : System) (bound : List SocketAddress) (text : String)
    (o : DialOptions) :
    Forwarder.bind system bound text o.outlined =
      (Forwarder.bind system bound text o).map outlined := by
  simp only [Forwarder.bind, DialOptions.validate_outlined]
  cases o.validate with
  | error cause => rfl
  | ok _ => cases system.bind bound text <;> rfl

theorem stepOne_outlined (f : Forwarder) (index : Nat) (e : ConnectionEvent) :
    f.outlined.stepOne index e = ((f.stepOne index e).1.outlined, (f.stepOne index e).2) := by
  simp only [stepOne, outlined]
  cases e <;> cases f.connections[index]? <;> rfl

/-- One event does the same to a forwarder without the secrets. -/
theorem step_outlined (f : Forwarder) (e : ForwarderEvent) :
    f.outlined.step e = ((f.step e).1.outlined, (f.step e).2) := by
  obtain ⟨options, address, limits, deadline, accepting, connections⟩ := f
  cases e with
  | accept dial => cases accepting <;> rfl
  | connection index e => exact stepOne_outlined _ index e
  | shutdown => cases accepting <;> rfl
  | _ => rfl

end Forwarder

namespace ListenerProcess

/-- A process with the secrets among its headers outlined. -/
def outlined (p : ListenerProcess) : ListenerProcess :=
  { p with forwarders := p.forwarders.map Forwarder.outlined }

theorem start_outlined (d : Dialer) (fs : List Forwarder) :
    start d (fs.map Forwarder.outlined) = ((start d fs).1.outlined, (start d fs).2) := by
  simp only [start, outlined, List.map_map]
  rfl

theorem inFlight_outlined (p : ListenerProcess) : p.outlined.inFlight = p.inFlight := by
  simp only [inFlight, outlined, List.foldr_map]
  rfl

theorem stepOne_outlined (p : ListenerProcess) (listener : Nat) (e : ForwarderEvent) :
    p.outlined.stepOne listener e =
      ((p.stepOne listener e).1.outlined, (p.stepOne listener e).2) := by
  simp only [stepOne, outlined, List.getElem?_map]
  cases p.forwarders[listener]? with
  | none => rfl
  | some f => simp only [Option.map_some, Forwarder.step_outlined, List.map_set]

theorem stepAll_outlined (e : ForwarderEvent) (index : Nat) (fs : List Forwarder) :
    stepAll e index (fs.map Forwarder.outlined) =
      ((stepAll e index fs).1.map Forwarder.outlined, (stepAll e index fs).2) := by
  induction fs generalizing index with
  | nil => rfl
  | cons f rest ih =>
    simp only [List.map_cons, stepAll, Forwarder.step_outlined, ih (index + 1)]

theorem connecting?_outlined (p : ListenerProcess) (listener connection : Nat) :
    p.outlined.connecting? listener connection =
      (p.connecting? listener connection).map Forwarder.outlined := by
  simp only [connecting?, outlined, List.getElem?_map]
  cases p.forwarders[listener]? with
  | none => rfl
  | some f =>
    simp only [Option.map_some, Forwarder.outlined]
    cases f.connections[connection]? with
    | none => rfl
    | some c => cases c <;> rfl

theorem dialed_outlined (p : ListenerProcess) (listener connection : Nat) (key : HeaderValue)
    (origin : Origin) :
    p.outlined.dialed listener connection key origin =
      ((p.dialed listener connection key origin).1.outlined,
        (p.dialed listener connection key origin).2) := by
  simp only [dialed, connecting?_outlined]
  cases p.connecting? listener connection with
  | none => rfl
  | some f =>
    have hdial : p.outlined.dialer.dial f.outlined.options key origin
        = (p.dialer.dial f.options key origin).map Established.outlined :=
      Dialer.dial_outlined p.dialer f.options key origin
    simp only [Option.map_some, hdial]
    cases p.dialer.dial f.options key origin with
    | error cause => exact stepOne_outlined p listener _
    | ok established =>
      simp only [Except.map, stepOne_outlined]
      rfl

theorem lookupBegun?_outlined (p : ListenerProcess) (e : ListenerEvent) :
    p.outlined.lookupBegun? e = p.lookupBegun? e := by
  cases e with
  | connect listener =>
    simp only [lookupBegun?, outlined, List.getElem?_map]
    cases p.forwarders[listener]? with
    | none => rfl
    | some f =>
      simp only [Option.map_some, Forwarder.outlined, DialOptions.looksUp_outlined]
      rfl
  | _ => rfl

theorem lookupEnded?_outlined (p : ListenerProcess) (e : ListenerEvent) :
    p.outlined.lookupEnded? e = p.lookupEnded? e := by
  cases e with
  | dial listener connection key origin =>
    simp only [lookupEnded?, connecting?_outlined]
    cases p.connecting? listener connection with
    | none => rfl
    | some f =>
      have htime : p.outlined.dialer.inTime f.outlined.options key origin
          = p.dialer.inTime f.options key origin :=
        Dialer.inTime_outlined p.dialer f.options key origin
      simp only [Option.map_some, htime]
  | _ => rfl

theorem lookupsAfter_outlined (p : ListenerProcess) (e : ListenerEvent) :
    p.outlined.lookupsAfter e = p.lookupsAfter e := by
  simp only [lookupsAfter, lookupBegun?_outlined, lookupEnded?_outlined]
  rfl

theorem leave_outlined (p : ListenerProcess) : p.outlined.leave = p.leave.outlined := rfl

theorem interrupted_outlined (p : ListenerProcess) :
    p.outlined.interrupted = (p.interrupted.1.outlined, p.interrupted.2) := by
  have hflight := inFlight_outlined
    { p with forwarders := (stepAll .shutdown 0 p.forwarders).1 }
  simp only [outlined] at hflight
  simp only [interrupted, outlined, stepAll_outlined, hflight]
  split <;> rfl

theorem attend_outlined (p : ListenerProcess) (e : ListenerEvent) :
    p.outlined.attend e = ((p.attend e).1.outlined, (p.attend e).2) := by
  cases e with
  | connect listener => exact stepOne_outlined p listener (.accept .pending)
  | acceptFault listener fault => exact stepOne_outlined p listener (.acceptFault fault)
  | dial listener connection key origin => exact dialed_outlined p listener connection key origin
  | lookedUp listener connection => rfl
  | relay listener connection event =>
    exact stepOne_outlined p listener (.connection connection (.relay event))
  | advance span => simp only [attend, outlined, stepAll_outlined]
  | interrupt => rfl

theorem carry_outlined (p : ListenerProcess) (e : ListenerEvent) :
    p.outlined.carry e = ((p.carry e).1.outlined, (p.carry e).2) := by
  simp only [carry, attend_outlined, lookupsAfter_outlined]
  rfl

theorem settle_outlined (step : ListenerProcess × ListenerOutput) :
    settle (step.1.outlined, step.2) = ((settle step).1.outlined, (settle step).2) := by
  simp only [settle, inFlight_outlined, leave_outlined]
  rw [show step.1.outlined.phase = step.1.phase from rfl]
  split <;> rfl

/-- One event does the same to a process without the secrets. -/
theorem step_outlined (p : ListenerProcess) (e : ListenerEvent) :
    p.outlined.step e = ((p.step e).1.outlined, (p.step e).2) := by
  have hcarried : settle (p.outlined.carry e)
      = ((settle (p.carry e)).1.outlined, (settle (p.carry e)).2) := by
    rw [carry_outlined, settle_outlined]
  have hinterrupted := interrupted_outlined p
  obtain ⟨dialer, forwarders, phase, lookups⟩ := p
  -- the first interrupt drains, a second one leaves; all else is carried while nothing has left
  cases phase with
  | ended => rfl
  | leaving => cases e <;> rfl
  | serving =>
    cases e with
    | interrupt => exact hinterrupted
    | _ => exact hcarried
  | draining =>
    cases e with
    | interrupt => rfl
    | _ => exact hcarried

/-- The request of a process without the secrets is the outline of its request. -/
theorem request?_outlined (p : ListenerProcess) (e : ListenerEvent) :
    p.outlined.request? e = (p.request? e).map SentRequest.outlined := by
  cases e with
  | dial listener connection key origin =>
    simp only [request?, connecting?_outlined]
    cases p.connecting? listener connection with
    | none => rfl
    | some f => exact Dialer.sent?_outlined p.dialer f.options key origin
  | _ => rfl

@[simp] theorem exit?_outlined (p : ListenerProcess) : p.outlined.exit? = p.exit? := rfl

end ListenerProcess

/-! ### The program -/

/-- A fault of the program without the places in the configuration that it names. -/
def ProgramFault.unplaced : ProgramFault → ProgramFault
  | .config fault => .config fault.unplaced
  | fault => fault

namespace Program

/-- A program with the secrets among its headers outlined, and without the places that its fault
names. -/
def outlined : Program → Program
  | .failed fault => .failed fault.unplaced
  | .tunnel process => .tunnel process.outlined
  | .listening process => .listening process.outlined

end Program

/-- What the program does in a step, with the secrets in its request outlined. -/
def ProgramOutput.outlined (o : ProgramOutput) : ProgramOutput :=
  { o with request := o.request.map SentRequest.outlined }

namespace Program

/-- One event does the same to a program without the secrets, whose requests are outlined. -/
theorem step_outlined (p : Program) (e : ProgramEvent) :
    p.outlined.step e = ((p.step e).1.outlined, (p.step e).2.outlined) := by
  cases p with
  | failed fault => rfl
  | tunnel process =>
    cases e with
    | tunnel event =>
      simp only [step, outlined, TunnelProcess.step_outlined, TunnelProcess.request?_outlined]
      rfl
    | listening event => rfl
  | listening process =>
    cases e with
    | tunnel event => rfl
    | listening event =>
      simp only [step, outlined, ListenerProcess.step_outlined,
        ListenerProcess.request?_outlined]
      rfl

/-- What two programs do in a step that differ in nothing but secrets. -/
def StepAlike (x y : Program × ProgramOutput) : Prop :=
  x.1.outlined = y.1.outlined ∧ x.2.outlined = y.2.outlined

/-- Programs with one outline do the same in all steps, but for the secrets in their requests. -/
theorem states_alike {p q : Program} (h : p.outlined = q.outlined) (es : List ProgramEvent) :
    List.Forall₂ StepAlike (p.states es) (q.states es) := by
  induction es generalizing p q with
  | nil => exact .nil
  | cons e rest ih =>
    have hstep : ((p.step e).1.outlined, (p.step e).2.outlined)
        = ((q.step e).1.outlined, (q.step e).2.outlined) := by
      rw [← step_outlined, ← step_outlined, h]
    obtain ⟨hafter, houtput⟩ := Prod.mk.inj hstep
    exact .cons ⟨hafter, houtput⟩ (ih hafter)

end Program

end Carrier
