import Carrier.Proofs.Program.Failures

/-!
# Validation is a gate

Options are validated before a listener is bound, before a tunnel dials or reads, and before every
dial. What passes is never found to be a mistake later on, whatever the network does.

- `DialOptions.Refused`: what becomes of options that cannot be dialed.
- `DialOptions.Passes`: what becomes of options that can.
- `DialOptions.validate_gates`: validation decides between the two.
-/

namespace Carrier

namespace DialOptions

/-- Options that are refused for a mistake, and that is all that is ever reported of them. -/
structure Refused (o : DialOptions) (cause : SetupError) : Prop where
  /-- No listener is bound, whatever the system would have said. -/
  bind : ∀ system bound text, Forwarder.bind system bound text o = .error (.setup cause)
  /-- A tunnel has ended before it dials, whatever its dial would have come to. -/
  tunnel : ∀ limits deadline dial,
    let started := Stdio.start o limits deadline dial
    started.1.result? = some (.error (.setup cause)) ∧ started.2 = (Traffic.none, [])
  /-- Nothing is read or sent for a tunnel, whatever happens around it. -/
  quiet : ∀ limits deadline dial script,
    let started := Stdio.start o limits deadline dial
    started.1.run script = (started.1, Traffic.none)
  /-- A process that was to carry its standard streams has ended, and does nothing more. -/
  process : ∀ dialer deadline script e,
    let p := (TunnelProcess.start dialer o deadline).1.after script
    p = (TunnelProcess.start dialer o deadline).1 ∧ p.request? e = none ∧
      p.exit? = some (ProgramFault.tunnel (.setup cause)).exit
  /-- Every dial is refused, whatever the origin would do, and no request is sent. -/
  dial : ∀ (dialer : Dialer) key origin,
    dialer.dial o key origin = .error (.setup cause) ∧ dialer.sent? o key origin = none
  /-- The mistake is one of the setup, however it is reported, and not worth another attempt. -/
  classified : cause.retryable = false ∧
    ((DialError.setup cause).isSetup = true ∧ (DialError.setup cause).retryable = false) ∧
    ∀ e ∈ [TunnelError.setup cause, TunnelError.dial (.setup cause)],
      e.isSetup = true ∧ e.retryable = false

/-- Options that can be dialed, in which no mistake is ever found. -/
structure Passes (o : DialOptions) : Prop where
  /-- They lead to a host that has a name, and to a port. -/
  place : ∃ url place, o.webSocketUrl = .ok url ∧ address url = .ok place ∧ place.host ≠ ""
  /-- A listener that is not bound is refused by the system. -/
  bind : ∀ system bound text cause,
    Forwarder.bind system bound text o = .error cause → cause.isSetup = false
  /-- A dial that fails does so for another reason, whatever the network and the origin do. -/
  dial : ∀ (dialer : Dialer) key origin cause,
    dialer.dial o key origin = .error cause → cause.isSetup = false
  /-- So does a tunnel of the standard streams, whatever happens around its process. -/
  tunnel : ∀ dialer deadline script cause,
    ((TunnelProcess.start dialer o deadline).1.after script).tunnel.result? = some (.error cause) →
      cause.isSetup = false
  /-- So does each connection of a listener, whatever happens around its process. -/
  connection : ∀ (p : ListenerProcess) (l : Nat) (f : Forwarder), p.forwarders[l]? = some f →
    f.options = o → f.connections = [] → ∀ script c cause,
      (p.after script).connection? l c = some (.failed cause) → cause.isSetup = false

variable {o : DialOptions} {cause : SetupError}

/-! ### Options that cannot be dialed -/

theorem start_refused (h : o.validate = .error cause) (limits : Limits)
    (deadline : Option Duration) (dial : DialOutcome) :
    Stdio.start o limits deadline dial =
      (Stdio.fail ⟨o, .connecting, { limits := limits, deadline := deadline }⟩ (.setup cause),
        Traffic.none, []) := by
  unfold Stdio.start
  rw [h]

/-- A process whose tunnel has failed at once has ended. -/
theorem process_refused (h : o.validate = .error cause) (dialer : Dialer)
    (deadline : Option Duration) (script : List TunnelEvent) :
    (TunnelProcess.start dialer o deadline).1.after script
      = (TunnelProcess.start dialer o deadline).1 := by
  have hended : (TunnelProcess.start dialer o deadline).1.phase = .ended := by
    unfold TunnelProcess.start
    rw [start_refused h]
    rfl
  induction script with
  | nil => rfl
  | cons e es ih =>
    have hstep : ((TunnelProcess.start dialer o deadline).1.step e).1
        = (TunnelProcess.start dialer o deadline).1 := by
      unfold TunnelProcess.step
      rw [hended]
    rw [TunnelProcess.after_cons, hstep, ih]

theorem refused_of_validate (h : o.validate = .error cause) : o.Refused cause where
  bind system bound text := by
    unfold Forwarder.bind
    rw [h]
  tunnel limits deadline dial := by
    rw [start_refused h]
    exact ⟨rfl, rfl⟩
  quiet limits deadline dial script := by
    rw [start_refused h]
    exact Stdio.run_failed rfl script
  process dialer deadline script e := by
    rw [process_refused h]
    have hstart : (TunnelProcess.start dialer o deadline).1 =
        ⟨dialer, Stdio.fail ⟨o, .connecting, { limits := dialer.limits, deadline := deadline }⟩
          (.setup cause), .ended⟩ := by
      unfold TunnelProcess.start
      rw [start_refused h]
      rfl
    rw [hstart]
    refine ⟨rfl, ?_, rfl⟩
    cases e <;> rfl
  dial dialer key origin := dialer.dial_invalid h key origin
  classified := by
    refine ⟨rfl, ⟨rfl, rfl⟩, ?_⟩
    intro e he
    simp only [List.mem_cons, List.not_mem_nil, or_false] at he
    rcases he with rfl | rfl <;> exact ⟨rfl, rfl⟩

/-! ### Options that can be dialed -/

theorem bind_notSetup (h : o.validate = .ok ()) {system : System} {bound : List SocketAddress}
    {text : String} {cause : TunnelError}
    (hbind : Forwarder.bind system bound text o = .error cause) : cause.isSetup = false := by
  unfold Forwarder.bind at hbind
  rw [h] at hbind
  dsimp only at hbind
  split at hbind
  · cases hbind
    rfl
  · cases hbind

theorem connection_notSetup (h : o.validate = .ok ()) {p : ListenerProcess} {l : Nat}
    {f : Forwarder} (hget : p.forwarders[l]? = some f) (hoptions : f.options = o)
    (hnone : f.connections = []) {script : List ListenerEvent} {c : Nat} {cause : DialError}
    (hfailed : (p.after script).connection? l c = some (.failed cause)) :
    cause.isSetup = false := by
  obtain ⟨g, hg, -, horigin⟩ := ListenerProcess.after_failed hget script
  unfold ListenerProcess.connection? at hfailed
  rw [hg] at hfailed
  rcases horigin c cause hfailed with hbefore | ⟨key, origin, hdial⟩
  · rw [hnone] at hbefore
    cases hbefore
  · rw [hoptions] at hdial
    exact p.dialer.dial_valid h key origin cause hdial

theorem passes_of_validate (h : o.validate = .ok ()) : o.Passes where
  place := by
    obtain ⟨url, hurl⟩ := validate_eq_ok.mp h
    obtain ⟨place, hplace, hhost⟩ := webSocketUrl_place hurl
    exact ⟨url, place, hurl, hplace, hhost⟩
  bind _ _ _ _ := bind_notSetup h
  dial dialer key origin := dialer.dial_valid h key origin
  tunnel dialer deadline script _ :=
    ((TunnelProcess.start_grounded dialer o deadline).after script).result_notSetup h
  connection _ _ _ hget hoptions hnone _ _ _ := connection_notSetup h hget hoptions hnone

/-! ### The gate -/

/-- Validation decides what becomes of options. Those that it refuses are refused by listeners,
tunnels and dials alike, for the same mistake, and before anything is bound, dialed or read; none of
them ever refuses those that pass, and these lead to a host and a port. -/
theorem validate_gates (o : DialOptions) :
    (∀ cause, o.validate = .error cause ↔ o.Refused cause) ∧ (o.validate = .ok () ↔ o.Passes) := by
  constructor
  · intro cause
    constructor
    · exact refused_of_validate
    · intro h
      cases hvalidate : o.validate with
      | error other =>
        -- a listener is refused for the mistake that validation finds
        have hsame := (refused_of_validate hvalidate).bind System.free [] ""
        cases hsame.symm.trans (h.bind System.free [] "")
        rfl
      | ok _ => cases bind_notSetup hvalidate (h.bind System.free [] "")
  · constructor
    · exact passes_of_validate
    · intro h
      obtain ⟨url, -, hurl, -⟩ := h.place
      exact validate_eq_ok.mpr ⟨url, hurl⟩

/-- An origin that is no WebSocket is refused, and one that is passes. -/
example : validate { origin := "ftp://localhost" }
      = .error (.unsupportedScheme "ftp://localhost" "ftp") ∧
    validate { origin := "ws://localhost" } = .ok () := by
  decide +kernel

end DialOptions

end Carrier
