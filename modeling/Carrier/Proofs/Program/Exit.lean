import Carrier.Proofs.Program.Beginning
import Carrier.Proofs.Program.Failures

/-!
# The exit of a process that carries its standard streams

A tunnel ends in some step of a run, and what it reports is what the process exits with. When the
process exits is another question: a read of standard input that was begun by the relay, or a write
to standard output, cannot be called off, and the process stays until it has come back.

- `Stdio.leavesRead`, `Stdio.leavesWrite`: what a tunnel leaves when it ends.
- `TunnelProcess.after_wait`: a process that waits for a read and a write, over a script.
- `TunnelProcess.Ends`: the step in which the tunnel of a process ends.
- `TunnelProcess.Stays`: when the process is there after that.
- `Program.tunnel_exits`: when a program exits, and how.
- `Program.tunnel_stays`: a program that does not exit when its tunnel has ended.
-/

namespace Carrier

/-! ### What a tunnel leaves -/

/-- What a relay reports when it is called off is no error. -/
theorem Cause.result_ne_cancelled (toRemote toLocal : Nat) (cause : Cause) :
    cause.result toRemote toLocal ≠ .error .cancelled := by
  cases cause <;> nofun

namespace Stdio

/-- Whether a tunnel that has ended has begun a read that has not come back. -/
def leavesRead (s : Stdio) : Bool :=
  match s.phase with
  | .relaying => s.relay.cause.any Cause.leavesRead
  | _ => false

/-- Whether a tunnel that has ended has begun a write that has not come back. -/
def leavesWrite (s : Stdio) : Bool :=
  match s.phase with
  | .relaying => s.relay.held.isSome
  | _ => false

theorem result?_relaying {s : Stdio} (h : s.phase = .relaying) :
    s.result? = s.relay.cause.map (·.result s.relay.toRemote s.relay.toLocal) := by
  unfold result?
  rw [h]
  rfl

theorem result?_failed {s : Stdio} {cause : TunnelError} (h : s.phase = .failed cause) :
    s.result? = some (.error cause) := by
  unfold result?
  rw [h]

/-- A tunnel reports that it was called off only where there was no relay. -/
theorem result?_cancelled {s : Stdio} (h : s.result? = some (.error .cancelled)) :
    s.phase = .failed .cancelled := by
  unfold result? at h
  cases hphase : s.phase with
  | connecting =>
    rw [hphase] at h
    cases h
  | relaying =>
    rw [hphase] at h
    obtain ⟨cause, -, hcause⟩ := Option.map_eq_some_iff.mp h
    exact absurd hcause (Cause.result_ne_cancelled _ _ cause)
  | failed cause =>
    rw [hphase] at h
    cases h
    rfl

end Stdio

/-! ### Waiting for a read and a write -/

namespace TunnelEvent

/-- Whether an event brings a read of standard input back. -/
def endsRead : TunnelEvent → Bool
  | .relay event => TunnelProcess.endsRead event
  | _ => false

/-- Whether an event brings a write to standard output back. -/
def endsWrite : TunnelEvent → Bool
  | .relay event => TunnelProcess.endsWrite event
  | _ => false

end TunnelEvent

namespace TunnelProcess

variable {p : TunnelProcess} {reading writing : Bool}

theorem wait_eq_ended : wait reading writing = .ended ↔ reading = false ∧ writing = false := by
  cases reading <;> cases writing <;> simp [wait]

/-- A process runs as long as its tunnel has nothing to report; then it waits for what the tunnel
has left. -/
theorem phaseAfter_eq (tunnel : Stdio) :
    phaseAfter tunnel =
      if tunnel.result?.isSome then wait tunnel.leavesRead tunnel.leavesWrite else .running := by
  obtain ⟨options, phase, relay⟩ := tunnel
  cases phase with
  | connecting => rfl
  | failed cause => rfl
  | relaying =>
    unfold phaseAfter Stdio.leavesRead Stdio.leavesWrite
    rw [Stdio.result?_relaying rfl]
    dsimp only
    cases relay.cause <;> rfl

theorem phaseAfter_running {tunnel : Stdio} :
    phaseAfter tunnel = .running ↔ tunnel.result? = none := by
  rw [phaseAfter_eq]
  cases tunnel.result? with
  | none => exact iff_of_true rfl rfl
  | some result =>
    refine iff_of_false ?_ nofun
    show wait _ _ ≠ .running
    unfold wait
    split <;> nofun

/-- A process that waits goes on waiting for what an event does not bring back. -/
theorem step_wait (h : p.phase = wait reading writing) (e : TunnelEvent) :
    (p.step e).1 =
      { p with phase := wait (reading && !e.endsRead) (writing && !e.endsWrite) } := by
  obtain ⟨dialer, tunnel, phase⟩ := p
  cases h
  cases reading <;> cases writing <;> cases e <;> rfl

theorem after_wait (h : p.phase = wait reading writing) (script : List TunnelEvent) :
    p.after script =
      { p with
        phase := wait (reading && !script.any (·.endsRead))
          (writing && !script.any (·.endsWrite)) } := by
  induction script generalizing p reading writing with
  | nil =>
    simp only [List.any_nil, Bool.not_false, Bool.and_true, ← h]
    rfl
  | cons e es ih =>
    rw [after_cons, step_wait h e, ih rfl]
    simp [Bool.and_assoc]

/-! ### The end of a tunnel -/

/-- The tunnel of a process ends in the last step of a script, and reports something. -/
structure Ends (p : TunnelProcess) (script : List TunnelEvent)
    (result : Except TunnelError Summary) : Prop where
  reported : (p.after script).tunnel.result? = some result
  before : ∀ before e more, script = before ++ e :: more →
    (p.after before).tunnel.result? = none

/-- A process whose tunnel has ended is there after more has happened, because nothing has brought
back what the tunnel left. -/
def Stays (p : TunnelProcess) (more : List TunnelEvent) : Prop :=
  (p.tunnel.leavesRead = true ∧ ∀ e ∈ more, e.endsRead = false) ∨
    (p.tunnel.leavesWrite = true ∧ ∀ e ∈ more, e.endsWrite = false)

/-- A process is interrupted in the last step of a script, while its dial is pending. -/
def CalledOff (p : TunnelProcess) (script : List TunnelEvent) : Prop :=
  ∃ before, script = before ++ [.interrupt] ∧ (p.after before).tunnel.phase = .connecting

theorem stays_iff (p : TunnelProcess) (more : List TunnelEvent) :
    p.Stays more ↔
      wait (p.tunnel.leavesRead && !more.any (·.endsRead))
        (p.tunnel.leavesWrite && !more.any (·.endsWrite)) ≠ .ended := by
  have hleft (left : Bool) (ends : TunnelEvent → Bool) :
      (left = true ∧ ∀ e ∈ more, ends e = false) ↔ (left && !more.any ends) = true := by
    rw [Bool.and_eq_true, Bool.not_eq_true', List.any_eq_false]
    simp only [Bool.not_eq_true]
  unfold Stays
  rw [hleft, hleft, Ne, wait_eq_ended, not_and_or, Bool.not_eq_false, Bool.not_eq_false]

/-- A tunnel that has ended has done so in some step. -/
theorem exists_ends {script : List TunnelEvent} {result : Except TunnelError Summary}
    (h : (p.after script).tunnel.result? = some result) :
    ∃ ended more first, script = ended ++ more ∧ p.Ends ended first := by
  -- the first step after which the tunnel has something to report is the one in which it ends
  induction script generalizing p with
  | nil => exact ⟨[], [], result, rfl, h, fun before e more hsplit => by simp at hsplit⟩
  | cons e es ih =>
    cases hnow : p.tunnel.result? with
    | some first =>
      exact ⟨[], e :: es, first, rfl, hnow, fun before e more hsplit => by simp at hsplit⟩
    | none =>
      obtain ⟨ended, more, first, rfl, hends⟩ := ih h
      refine ⟨e :: ended, more, first, rfl, hends.reported, ?_⟩
      intro before d rest hsplit
      cases before with
      | nil => exact hnow
      | cons c before =>
        rw [List.cons_append] at hsplit
        obtain ⟨rfl, hrest⟩ := List.cons.inj hsplit
        exact hends.before before d rest hrest

variable {script : List TunnelEvent} {result : Except TunnelError Summary}

/-- One event ends a tunnel that has nothing to report before. -/
theorem Ends.single {e : TunnelEvent} (h : (p.after [e]).tunnel.result? = some result)
    (hopen : p.tunnel.result? = none) : p.Ends [e] result := by
  refine ⟨h, ?_⟩
  intro before d more hsplit
  obtain ⟨rfl, -⟩ : before = [] ∧ _ := by simpa [List.append_eq_cons_iff] using hsplit.symm
  exact hopen

/-- A process whose tunnel has nothing to report runs. -/
theorem Follows.phase_running (h : p.Follows) (hopen : p.tunnel.result? = none) :
    p.phase = .running :=
  h.running.mp (phaseAfter_running.mpr hopen)

/-- When its tunnel ends, a process waits for what the tunnel has left. -/
theorem Ends.phase (h : p.Ends script result) (hfollows : p.Follows)
    (hbegin : p.phase = phaseAfter p.tunnel) :
    (p.after script).phase =
      wait (p.after script).tunnel.leavesRead (p.after script).tunnel.leavesWrite := by
  have hphase : (p.after script).phase = phaseAfter (p.after script).tunnel := by
    rcases script.eq_nil_or_concat with rfl | ⟨before, e, rfl⟩
    · exact hbegin
    · -- the process runs until the last step, which leaves it in the phase of its tunnel
      have hopen := h.before before e [] (by simp)
      have hbefore : (p.after before).Follows := after_follows hfollows before
      rw [List.concat_eq_append, after_snoc, step_running (hbefore.phase_running hopen) hbefore]
      rfl
  rw [hphase, phaseAfter_eq, h.reported]
  rfl

/-- The process exits with what its tunnel has reported, and does so when what the tunnel has left
is back. -/
theorem Ends.exit? (h : p.Ends script result) (hfollows : p.Follows)
    (hbegin : p.phase = phaseAfter p.tunnel) (more : List TunnelEvent) :
    ((p.after (script ++ more)).exit? = none ↔ (p.after script).Stays more) ∧
      ((p.after (script ++ more)).exit? = some (.ofTunnel result) ↔
        ¬ (p.after script).Stays more) := by
  rw [stays_iff, p.after_append, after_wait (h.phase hfollows hbegin) more]
  generalize wait _ _ = phase
  unfold TunnelProcess.exit?
  rw [h.reported]
  cases phase <;> simp

theorem Follows.step_interrupt (h : p.Follows) (hopen : p.tunnel.result? = none) :
    (p.step .interrupt).1.tunnel.phase = Stdio.phaseOn p.tunnel.phase (.relay .cancel) := by
  rw [step_running (h.phase_running hopen) h]
  exact (p.tunnel.step_phase (.relay .cancel)).1

/-- A tunnel reports that it was called off exactly where it was interrupted before its relay. -/
theorem Ends.cancelled (h : p.Ends script result) (hfollows : p.Follows)
    (hbegin : p.tunnel.phase ≠ .failed .cancelled) :
    result = .error .cancelled ↔ p.CalledOff script := by
  constructor
  · rintro rfl
    have hphase := Stdio.result?_cancelled h.reported
    rcases script.eq_nil_or_concat with rfl | ⟨before, e, rfl⟩
    · exact absurd hphase hbegin
    · rw [List.concat_eq_append] at h hphase ⊢
      have hopen := h.before before e [] rfl
      have hbefore : (p.after before).Follows := after_follows hfollows before
      -- nothing has been reported before the last step, so that no failure is older
      have hstanding {cause : TunnelError} : (p.after before).tunnel.phase ≠ .failed cause :=
        fun hfailed => nomatch (Stdio.result?_failed hfailed).symm.trans hopen
      obtain rfl : e = .interrupt := by
        rw [after_snoc, step_running (hbefore.phase_running hopen) hbefore] at hphase
        rcases Stdio.run_failure hphase with hfailed | ⟨seen, hseen, hcause⟩
        · exact absurd hfailed hstanding
        · rcases seen_failure hseen hcause with ⟨_, _, _, -, hdial, -⟩ | ⟨hinterrupt, -⟩
          · cases hdial
          · exact hinterrupt
      refine ⟨before, rfl, ?_⟩
      rw [after_snoc, hbefore.step_interrupt hopen] at hphase
      cases hconnecting : (p.after before).tunnel.phase with
      | connecting => rfl
      | relaying =>
        rw [hconnecting] at hphase
        cases hphase
      | failed cause => exact absurd hconnecting hstanding
  · rintro ⟨before, rfl, hconnecting⟩
    have hopen := h.before before .interrupt [] rfl
    have hphase := (after_follows hfollows before).step_interrupt hopen
    rw [hconnecting, ← after_snoc] at hphase
    exact Option.some.inj (h.reported.symm.trans (Stdio.result?_failed hphase))

/-- The exit is a success exactly where the relay ended well or there was none because the process
was interrupted. -/
theorem Ends.success (h : p.Ends script result) (hfollows : p.Follows)
    (hbegin : p.tunnel.phase ≠ .failed .cancelled) :
    ProgramExit.ofTunnel result = ⟨0, ""⟩ ↔
      (∃ summary, result = .ok summary) ∨ p.CalledOff script := by
  rw [← h.cancelled hfollows hbegin]
  cases result with
  | ok summary => exact iff_of_true rfl (.inl ⟨summary, rfl⟩)
  | error cause =>
    cases cause <;> simp [ProgramExit.ofTunnel, ProgramExit.success, ProgramFault.exit]

end TunnelProcess

/-- Any other exit has the chain of causes of what the tunnel reports. -/
theorem ProgramExit.ofTunnel_failure {result : Except TunnelError Summary}
    (h : ofTunnel result ≠ ⟨0, ""⟩) :
    ∃ cause, result = .error cause ∧
      ofTunnel result = ⟨1, Report.write (ProgramFault.tunnel cause).chain⟩ := by
  cases result with
  | ok summary => exact absurd rfl h
  | error cause =>
    refine ⟨cause, rfl, ?_⟩
    cases cause with
    | cancelled => exact absurd rfl h
    | _ => rfl

/-! ### Programs -/

namespace Program

open TunnelProcess

variable {dialer : Dialer} {s : Surroundings} {p : TunnelProcess}

/-- A program that carries its standard streams does not exit before its tunnel has ended. The
tunnel ends in some step; from this step on the program is there as long as a read or a write that
the tunnel left has not come back, whatever else happens, and then it exits with what the tunnel has
reported: with code 0 exactly where the relay ended well or the program was interrupted before it,
and otherwise with code 1 and the chain of causes. -/
theorem tunnel_exits (hstart : (start dialer s).1 = .tunnel p) :
    let run (script : List TunnelEvent) := (start dialer s).1.after (script.map .tunnel)
    (∀ script, ((p.after script).tunnel.result? = none ∧ (run script).exit? = none) ∨
      ∃ ended more result, script = ended ++ more ∧ p.Ends ended result) ∧
    ∀ ended result, p.Ends ended result →
      (∀ more, ((run (ended ++ more)).exit? = none ↔ (p.after ended).Stays more) ∧
        ((run (ended ++ more)).exit? = some (.ofTunnel result) ↔
          ¬ (p.after ended).Stays more)) ∧
      (ProgramExit.ofTunnel result = ⟨0, ""⟩ ↔
        (∃ summary, result = .ok summary) ∨ p.CalledOff ended) ∧
      (ProgramExit.ofTunnel result ≠ ⟨0, ""⟩ → ∃ cause, result = .error cause ∧
        ProgramExit.ofTunnel result = ⟨1, Report.write (ProgramFault.tunnel cause).chain⟩) := by
  intro run
  have hrun (script : List TunnelEvent) : (run script).exit? = (p.after script).exit? := by
    show ((start dialer s).1.after (script.map .tunnel)).exit? = _
    rw [hstart, after_tunnel]
    rfl
  obtain ⟨options, deadline, hp⟩ := start_tunnel hstart
  have hfollows : p.Follows := by
    rw [hp]
    exact start_follows dialer options deadline
  have hbegin : p.phase = phaseAfter p.tunnel := by
    rw [hp]
    rfl
  have hstands : p.tunnel.phase ≠ .failed .cancelled := by
    intro hfailed
    rw [hp] at hfailed
    obtain ⟨found, -, hsetup⟩ := Stdio.start_failed hfailed
    cases hsetup
  refine ⟨?_, ?_⟩
  · intro script
    cases hresult : (p.after script).tunnel.result? with
    | none =>
      refine .inl ⟨rfl, ?_⟩
      have hphase := (after_follows hfollows script).phase_running hresult
      rw [hrun]
      unfold TunnelProcess.exit?
      rw [hphase]
    | some result => exact .inr (exists_ends hresult)
  · intro ended result hends
    simp only [hrun]
    exact ⟨hends.exit? hfollows hbegin, hends.success hfollows hstands,
      ProgramExit.ofTunnel_failure⟩

/-- A run that carries its standard streams. -/
def tunnelRun : Surroundings where
  arguments := ["ssh", "--hostname", "http://localhost"]
  environment := fun _ => none
  files := fun _ => .error .invalidPort
  system := System.free

/-- The process of this run when it begins. -/
def tunnelBegun : TunnelProcess :=
  (TunnelProcess.start {} { origin := "http://localhost", host := some "localhost" } none).1

theorem tunnelRun_begins : (start {} tunnelRun).1 = .tunnel tunnelBegun := by
  rfl

/-- An interrupt while the dial is pending leaves nothing to wait for. -/
theorem tunnel_exits_interrupted :
    (start {} tunnelRun).1 = .tunnel tunnelBegun ∧
      tunnelBegun.Ends [.interrupt] (.error .cancelled) ∧
      ((start {} tunnelRun).1.after [.tunnel .interrupt]).exit? = some ⟨0, ""⟩ := by
  have hends : tunnelBegun.Ends [.interrupt] (.error .cancelled) := .single rfl rfl
  obtain ⟨-, hexits⟩ := tunnel_exits tunnelRun_begins
  obtain ⟨hwhen, -⟩ := hexits [.interrupt] (.error .cancelled) hends
  refine ⟨tunnelRun_begins, hends, (hwhen []).2.mpr ?_⟩
  rintro (⟨hread, -⟩ | ⟨hwrite, -⟩)
  · cases hread
  · cases hwrite

/-- A dial that succeeds, after which the other end closes at once with an empty close frame. -/
def closedDial : TunnelEvent := .dial sampleKey (sampleOrigin [136, 0])

/-- The relay ends well, but its read of standard input has not come back. -/
theorem tunnelBegun_closed :
    (tunnelBegun.after [closedDial]).tunnel.result? = some (.ok ⟨.remoteClosed, 0, 0⟩) ∧
      (tunnelBegun.after [closedDial]).phase = wait true false := by
  decide +kernel

/-- The other end closes at once and the relay ends well, but standard input is open and idle. The
program does not exit in this step, nor when it is interrupted; it exits when its input ends. -/
theorem tunnel_stays :
    let run (script : List TunnelEvent) :=
      (start {} tunnelRun).1.after ((closedDial :: script).map .tunnel)
    (start {} tunnelRun).1 = .tunnel tunnelBegun ∧
      tunnelBegun.Ends [closedDial] (.ok ⟨.remoteClosed, 0, 0⟩) ∧ (run []).exit? = none ∧
      (run [.interrupt, .interrupt]).exit? = none ∧
      (run [.relay (.localEnd .eof)]).exit? = some ⟨0, ""⟩ := by
  intro run
  obtain ⟨hresult, hphase⟩ := tunnelBegun_closed
  have hends : tunnelBegun.Ends [closedDial] (.ok ⟨.remoteClosed, 0, 0⟩) := .single hresult rfl
  have hexit (script : List TunnelEvent) : (run script).exit? =
      if script.any (·.endsRead) then some ⟨0, ""⟩ else none := by
    have hrun : run script = .tunnel ((tunnelBegun.after [closedDial]).after script) := by
      rw [← tunnelBegun.after_append, ← after_tunnel, ← tunnelRun_begins]
      rfl
    rw [hrun, after_wait hphase]
    unfold Program.exit? TunnelProcess.exit?
    dsimp only
    rw [hresult]
    cases script.any (·.endsRead) <;> rfl
  simp only [hexit]
  exact ⟨tunnelRun_begins, hends, rfl, rfl, rfl⟩

end Program

end Carrier
