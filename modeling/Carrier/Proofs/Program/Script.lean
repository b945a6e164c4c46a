import Carrier.Program.Run

/-!
# Programs over whole scripts

- `TunnelProcess.after`, `ListenerProcess.after`, `Program.after`: what a script leaves.
- `Program.after_tunnel`, `Program.after_listening`: a program goes on as what it has become.
- `Program.states_failed`: a program that has failed does nothing any more.
- `sampleKey`, `sampleOrigin`: a challenge, and an origin that meets it.
-/

namespace Carrier

/-- The process after a script. -/
def TunnelProcess.after (p : TunnelProcess) (script : List TunnelEvent) : TunnelProcess :=
  script.foldl (fun p e => (p.step e).1) p

/-- The process after a script. -/
def ListenerProcess.after (p : ListenerProcess) (script : List ListenerEvent) : ListenerProcess :=
  script.foldl (fun p e => (p.step e).1) p

namespace TunnelProcess

theorem after_cons (p : TunnelProcess) (e : TunnelEvent) (es : List TunnelEvent) :
    p.after (e :: es) = (p.step e).1.after es := rfl

theorem after_append (p : TunnelProcess) (es fs : List TunnelEvent) :
    p.after (es ++ fs) = (p.after es).after fs :=
  List.foldl_append

theorem after_snoc (p : TunnelProcess) (es : List TunnelEvent) (e : TunnelEvent) :
    p.after (es ++ [e]) = ((p.after es).step e).1 :=
  p.after_append es [e]

end TunnelProcess

namespace ListenerProcess

theorem after_cons (p : ListenerProcess) (e : ListenerEvent) (es : List ListenerEvent) :
    p.after (e :: es) = (p.step e).1.after es := rfl

theorem after_append (p : ListenerProcess) (es fs : List ListenerEvent) :
    p.after (es ++ fs) = (p.after es).after fs :=
  List.foldl_append

theorem after_snoc (p : ListenerProcess) (es : List ListenerEvent) (e : ListenerEvent) :
    p.after (es ++ [e]) = ((p.after es).step e).1 :=
  p.after_append es [e]

/-- A process that has ended stays as it is. -/
theorem after_ended {p : ListenerProcess} (h : p.phase = .ended) (script : List ListenerEvent) :
    p.after script = p := by
  induction script with
  | nil => rfl
  | cons e es ih =>
    have hstep : p.step e = (p, .none) := by
      unfold step
      rw [h]
    rw [after_cons, hstep]
    exact ih

end ListenerProcess

namespace Program

/-- The program after a script. -/
def after (p : Program) (script : List ProgramEvent) : Program :=
  script.foldl (fun p e => (p.step e).1) p

theorem after_tunnel (p : TunnelProcess) (script : List TunnelEvent) :
    (Program.tunnel p).after (script.map .tunnel) = .tunnel (p.after script) := by
  induction script generalizing p with
  | nil => rfl
  | cons e es ih => exact ih (p.step e).1

theorem after_listening (p : ListenerProcess) (script : List ListenerEvent) :
    (Program.listening p).after (script.map .listening) = .listening (p.after script) := by
  induction script generalizing p with
  | nil => rfl
  | cons e es ih => exact ih (p.step e).1

/-- Nothing is carried, dialed or reported after a failure. -/
theorem states_failed (fault : ProgramFault) (script : List ProgramEvent) :
    ∀ x ∈ (Program.failed fault).states script, x = (.failed fault, ⟨[], none, []⟩) := by
  induction script with
  | nil => exact fun x hx => absurd hx List.not_mem_nil
  | cons e es ih =>
    intro x hx
    have hstep : (Program.failed fault).step e = (.failed fault, ⟨[], none, []⟩) := by
      cases e <;> rfl
    rw [states, hstep, List.mem_cons] at hx
    exact hx.elim id (ih x)

end Program

/-! ### A dial that succeeds -/

/-- A challenge. -/
def sampleKey : HeaderValue := UpgradeRequest.known "AQIDBAUGBwgJCgsMDQ4PEA==" (by decide +kernel)

/-- What an origin answers that meets the challenge. -/
def sampleAnswer : String :=
  "HTTP/1.1 101 Switching Protocols\r\nConnection: Upgrade\r\nUpgrade: websocket\r\n" ++
    "Sec-WebSocket-Accept: C/0nmHhBztSRGR1CwL6Tf4ZjwpY=\r\n\r\n"

/-- An origin that takes the connection and meets the challenge, after which some octets follow. -/
def sampleOrigin (early : Bytes) : Origin :=
  ⟨fun _ => .now (.ok ()), fun _ => .now (.ok ()),
    [(⟨0⟩, sampleAnswer.toUTF8.toList ++ early)], .silence⟩

end Carrier
