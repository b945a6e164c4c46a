import Carrier.Proofs.Program.Announcement
import Carrier.Program.Run

/-!
# What a process begins with

A listener begins with options that can be dialed, on an address that the system lets it have. A
process of listeners begins with such listeners only.

- `Launch.listen_eq_ok`: when a listener begins, and what it is then.
- `Forwarder.Begun`: a listener that has just begun.
- `Program.start_listening`, `Program.start_tunnel`: both kinds of processes, as they begin.
-/

namespace Carrier

/-- A listener that has just begun, with options that can be dialed. -/
structure Forwarder.Begun (f : Forwarder) : Prop where
  valid : f.options.validate = .ok ()
  accepting : f.accepting = true
  connections : f.connections = []

/-- A listener is bound where its options can be dialed and the system lets it have its address. -/
theorem Forwarder.bind_eq_ok {system : System} {bound : List SocketAddress} {text : String}
    {options : DialOptions} {f : Forwarder} :
    Forwarder.bind system bound text options = .ok f ↔
      options.validate = .ok () ∧ ∃ address, system.bind bound text = .ok address ∧
        f = { options := options, address := address } := by
  unfold Forwarder.bind
  cases options.validate with
  | error cause => simp
  | ok _ =>
    cases system.bind bound text with
    | error fault => simp
    | ok address => simp [eq_comm]

namespace Launch

variable {system : System} {environment : Environment} {bound : List SocketAddress}
  {limits : Limits}

theorem listen_eq_ok {address : String} {options : DialOptions} {deadline : Option Duration}
    {f : Forwarder} :
    listen system bound limits address options deadline = .ok f ↔
      options.validate = .ok () ∧ ∃ place, system.bind bound address = .ok place ∧
        f = { options := options, address := place, limits := limits, deadline := deadline } := by
  unfold listen
  cases hbind : Forwarder.bind system bound address options with
  | error cause =>
    constructor
    · nofun
    · rintro ⟨hvalid, place, hplace, -⟩
      have := Forwarder.bind_eq_ok.mpr ⟨hvalid, place, hplace, rfl⟩
      cases hbind.symm.trans this
  | ok g =>
    obtain ⟨hvalid, place, hplace, rfl⟩ := Forwarder.bind_eq_ok.mp hbind
    constructor
    · intro h
      exact ⟨hvalid, place, hplace, (Except.ok.inj h).symm⟩
    · rintro ⟨-, place', hplace', rfl⟩
      cases hplace.symm.trans hplace'
      rfl

/-- A listener that begins has just begun. -/
theorem listen_begun {address : String} {options : DialOptions} {deadline : Option Duration}
    {f : Forwarder} (h : listen system bound limits address options deadline = .ok f) :
    f.Begun := by
  obtain ⟨hvalid, place, -, rfl⟩ := listen_eq_ok.mp h
  exact ⟨hvalid, rfl, rfl⟩

theorem listenFor_begun {e : ForwarderEntry} {f : Forwarder}
    (h : (listenFor system environment bound limits e).1 = .ok f) : f.Begun := by
  unfold listenFor at h
  cases haddress : listenerAddress e.listener with
  | error cause =>
    rw [haddress] at h
    cases h
  | ok address =>
    rw [haddress] at h
    cases hoptions : e.options environment with
    | error fault =>
      rw [hoptions] at h
      cases h
    | ok built =>
      rw [hoptions] at h
      exact listen_begun h

/-- The listener of the first entry begins, and then those of the others behind it. -/
theorem listenAll_cons (e : ForwarderEntry) (rest : List ForwarderEntry) :
    (listenAll system environment bound limits (e :: rest)).1 =
      match (listenFor system environment bound limits e).1 with
      | .error fault => .error fault
      | .ok f =>
        (listenAll system environment (f.address :: bound) limits rest).1.map (f :: ·) := by
  rw [listenAll]
  obtain ⟨outcome, records⟩ := listenFor system environment bound limits e
  cases outcome <;> rfl

theorem listenAll_begun {entries : List ForwarderEntry} {fs : List Forwarder}
    (h : (listenAll system environment bound limits entries).1 = .ok fs) : ∀ f ∈ fs, f.Begun := by
  induction entries generalizing bound fs with
  | nil =>
    cases h
    exact fun f hf => absurd hf List.not_mem_nil
  | cons e rest ih =>
    rw [listenAll_cons] at h
    cases hfor : (listenFor system environment bound limits e).1 with
    | error fault =>
      rw [hfor] at h
      cases h
    | ok f =>
      rw [hfor] at h
      dsimp only at h
      cases hmore : (listenAll system environment (f.address :: bound) limits rest).1 with
      | error fault =>
        rw [hmore] at h
        cases h
      | ok more =>
        rw [hmore] at h
        cases h
        intro g hg
        rcases List.mem_cons.mp hg with rfl | hg
        · exact listenFor_begun hfor
        · exact ih hmore g hg

theorem single_begun {a : SshArguments} {options : DialOptions} {fs : List Forwarder}
    (h : single system limits a options = .ok (.listeners fs)) : ∀ f ∈ fs, f.Begun := by
  unfold single at h
  split at h
  · cases h
  · split at h
    · cases h
    · rename_i address _
      cases hlisten : listen system [] limits address options a.deadline with
      | error cause =>
        rw [hlisten] at h
        cases h
      | ok f =>
        rw [hlisten] at h
        cases h
        intro g hg
        rw [List.mem_singleton.mp hg]
        exact listen_begun hlisten

theorem ofConfig_begun {s : Surroundings} {path : String} {fs : List Forwarder}
    (h : (ofConfig s limits path).1 = .ok (.listeners fs)) : ∀ f ∈ fs, f.Begun := by
  unfold ofConfig at h
  cases hload : Config.load s.files path with
  | error fault =>
    rw [hload] at h
    cases h
  | ok config =>
    simp only [hload] at h
    cases hall : listenAll s.system s.environment [] limits config.forwarders with
    | mk outcome records =>
      rw [hall] at h
      cases outcome with
      | error fault => cases h
      | ok gs =>
        cases h
        exact listenAll_begun (congrArg Prod.fst hall)

/-- Whatever is listened on has just begun. -/
theorem prepare_begun {s : Surroundings} {fs : List Forwarder}
    (h : (prepare s limits).1 = .ok (.listeners fs)) : ∀ f ∈ fs, f.Begun := by
  unfold prepare at h
  cases hunderstand : understand s with
  | error fault =>
    rw [hunderstand] at h
    cases h
  | ok found =>
    obtain ⟨⟨level, command⟩, filter⟩ := found
    rw [hunderstand] at h
    cases command with
    | ssh a =>
      change (ofArguments s.system limits a).1 = _ at h
      unfold ofArguments at h
      cases hoptions : a.options with
      | error cause =>
        rw [hoptions] at h
        cases h
      | ok built =>
        rw [hoptions] at h
        change single s.system limits a built.1 = _ at h
        exact single_begun h
    | forward path => exact ofConfig_begun h

end Launch

namespace Program

/-- A process of listeners serves, its listeners have just begun, and no lookup is under way. -/
theorem start_listening {dialer : Dialer} {s : Surroundings} {p : ListenerProcess}
    (h : (start dialer s).1 = .listening p) :
    p.dialer = dialer ∧ p.phase = .serving ∧ (∀ f ∈ p.forwarders, f.Begun) ∧ p.lookups = [] := by
  unfold start at h
  cases hprepare : Launch.prepare s dialer.limits with
  | mk outcome records =>
    rw [hprepare] at h
    rcases outcome with fault | ⟨options, deadline⟩ | forwarders
    · cases h
    · cases h
    · cases h
      exact ⟨rfl, rfl, Launch.prepare_begun (congrArg Prod.fst hprepare), rfl⟩

/-- A process that carries its standard streams begins with its tunnel. -/
theorem start_tunnel {dialer : Dialer} {s : Surroundings} {p : TunnelProcess}
    (h : (start dialer s).1 = .tunnel p) :
    ∃ options deadline, p = (TunnelProcess.start dialer options deadline).1 := by
  unfold start at h
  cases hprepare : Launch.prepare s dialer.limits with
  | mk outcome records =>
    rw [hprepare] at h
    rcases outcome with fault | ⟨options, deadline⟩ | forwarders
    · cases h
    · cases h
      exact ⟨options, deadline, rfl⟩
    · cases h

end Program

end Carrier
