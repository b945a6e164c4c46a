import Carrier.Proofs.Program.Script
import Carrier.Proofs.Stdio.Phases

/-!
# The tunnel of a process

While a process runs, what happens to it is what happens to its tunnel.

- `Stdio.step_phase`: how an event changes the phase of a tunnel.
- `TunnelProcess.seen`: what an event of a process is for its tunnel.
- `TunnelProcess.Follows`: a process whose phase is that of its tunnel as long as it runs.
- `TunnelProcess.step_running`, `TunnelProcess.step_over`: one event, before and after the tunnel
  has ended.
-/

namespace Carrier

namespace Stdio

/-- The phase of a tunnel after an event. -/
def phaseOn (phase : StdioPhase) (e : StdioEvent) : StdioPhase :=
  match phase, e with
  | .connecting, .established => .relaying
  | .connecting, .dialFailed cause => .failed (.dial cause)
  | .connecting, .relay .cancel => .failed .cancelled
  | phase, _ => phase

theorem step_phase (s : Stdio) (e : StdioEvent) :
    (s.step e).1.phase = phaseOn s.phase e ∧ (s.step e).1.options = s.options := by
  obtain ⟨options, phase, relay⟩ := s
  cases e with
  | established => cases phase <;> exact ⟨rfl, rfl⟩
  | dialFailed cause => cases phase <;> exact ⟨rfl, rfl⟩
  | relay event =>
    cases phase with
    | connecting => cases event <;> exact ⟨rfl, rfl⟩
    | _ => exact ⟨rfl, rfl⟩

theorem run_options (s : Stdio) (es : List StdioEvent) : (s.run es).1.options = s.options := by
  induction es generalizing s with
  | nil => rfl
  | cons e es ih => exact (ih (s.step e).1).trans (s.step_phase e).2

end Stdio

namespace TunnelProcess

/-- What an event of a process is for its tunnel. The end of a dial matters only to a tunnel that
waits for it, and what came with the answer is there before the relay begins. -/
def seen (p : TunnelProcess) : TunnelEvent → List StdioEvent
  | .dial key origin =>
    match p.tunnel.phase with
    | .connecting =>
      match p.dialer.dial p.tunnel.options key origin with
      | .error cause => [.dialFailed cause]
      | .ok established => [.relay (.remoteBytes established.early), .established]
    | _ => []
  | .relay .cancel => []
  | .relay event => [.relay event]
  | .interrupt => [.relay .cancel]

/-- The process with its tunnel in another state. -/
def withTunnel (p : TunnelProcess) (tunnel : Stdio) : TunnelProcess :=
  { p with tunnel := tunnel, phase := phaseAfter tunnel }

/-- The phase of a process is that of its tunnel while it runs; the tunnel of one that does not run
has ended. -/
structure Follows (p : TunnelProcess) : Prop where
  running : phaseAfter p.tunnel = .running ↔ p.phase = .running

theorem withTunnel_self {p : TunnelProcess} (hphase : p.phase = .running)
    (hfollows : p.Follows) : p.withTunnel p.tunnel = p := by
  obtain ⟨dialer, tunnel, phase⟩ := p
  cases hphase
  show (⟨dialer, tunnel, phaseAfter tunnel⟩ : TunnelProcess) = _
  rw [show phaseAfter tunnel = .running from hfollows.running.mpr rfl]

theorem withTunnel_follows (p : TunnelProcess) (tunnel : Stdio) :
    (p.withTunnel tunnel).Follows := ⟨Iff.rfl⟩

/-- While a process runs, it does what its tunnel does. -/
theorem step_running {p : TunnelProcess} (hphase : p.phase = .running) (hfollows : p.Follows)
    (e : TunnelEvent) : (p.step e).1 = p.withTunnel (p.tunnel.run (p.seen e)).1 := by
  -- events that the tunnel does not see leave its phase and that of the process alike
  have hsame := withTunnel_self hphase hfollows
  unfold step
  rw [hphase]
  cases e with
  | dial key origin =>
    show (p.dialed key origin).1 = _
    unfold dialed seen
    cases p.tunnel.phase with
    | connecting =>
      dsimp only
      cases p.dialer.dial p.tunnel.options key origin <;> rfl
    | _ => exact hsame.symm
  | relay event =>
    cases event with
    | cancel => exact hsame.symm
    | _ => rfl
  | interrupt => rfl

/-- When its tunnel has ended, a process only waits for a read and a write to come back. -/
theorem step_over {p : TunnelProcess} (hphase : p.phase ≠ .running) (e : TunnelEvent) :
    (p.step e).1.tunnel = p.tunnel ∧ (p.step e).1.dialer = p.dialer ∧
      (p.step e).1.phase ≠ .running := by
  unfold step
  cases hp : p.phase with
  | running => exact absurd hp hphase
  | ended =>
    refine ⟨rfl, rfl, ?_⟩
    show p.phase ≠ .running
    exact hphase
  | lingering reading writing =>
    cases e with
    | relay event =>
      refine ⟨rfl, rfl, ?_⟩
      show wait (reading && !endsRead event) (writing && !endsWrite event) ≠ .running
      unfold wait
      split <;> nofun
    | _ => exact ⟨rfl, rfl, hphase⟩

theorem step_follows {p : TunnelProcess} (h : p.Follows) (e : TunnelEvent) :
    (p.step e).1.Follows := by
  by_cases hphase : p.phase = .running
  · rw [step_running hphase h]
    exact p.withTunnel_follows _
  · obtain ⟨htunnel, -, hover⟩ := step_over hphase e
    refine ⟨?_⟩
    rw [htunnel, h.running]
    exact ⟨fun hrunning => absurd hrunning hphase, fun hrunning => absurd hrunning hover⟩

theorem after_follows {p : TunnelProcess} (h : p.Follows) (script : List TunnelEvent) :
    (p.after script).Follows := by
  induction script generalizing p with
  | nil => exact h
  | cons e es ih => exact ih (step_follows h e)

theorem start_follows (dialer : Dialer) (options : DialOptions) (deadline : Option Duration) :
    (start dialer options deadline).1.Follows := ⟨Iff.rfl⟩

/-- How a process dials does not change, nor with which options. -/
theorem step_settings {p : TunnelProcess} (h : p.Follows) (e : TunnelEvent) :
    (p.step e).1.dialer = p.dialer ∧ (p.step e).1.tunnel.options = p.tunnel.options := by
  by_cases hphase : p.phase = .running
  · rw [step_running hphase h]
    exact ⟨rfl, Stdio.run_options _ _⟩
  · obtain ⟨htunnel, hdialer, -⟩ := step_over hphase e
    rw [htunnel]
    exact ⟨hdialer, rfl⟩

end TunnelProcess

end Carrier
