import Carrier.Program.Launch
import Carrier.Proofs.Override.Trust
import Mathlib.Data.List.Forall2

/-!
# Trust without proof is announced

Every place that the program carries to is dialed with options that come of one text: the one that
the command line or an entry of the configuration names to connect to instead.

- `SshArguments.options_announced`, `ForwarderEntry.options_announced`: both ways to make options.
- `Launch.connectTexts`: the texts that a run of the program is asked to connect to.
- `Launch.prepare_announced`: what the program hands to its dialer and reports, for every run.
-/

namespace Carrier

/-- The options of a command line are lax only where it asks for it. -/
theorem SshArguments.options_announced {a : SshArguments} {options : DialOptions}
    {records : List LogRecord} (h : a.options = .ok (options, records)) :
    Override.Announced (a.connectTo.getD "") options records :=
  DialOptions.resolve_announced rfl h

/-- The options of an entry are lax only where it asks for it. -/
theorem ForwarderEntry.options_announced {e : ForwarderEntry} {environment : Environment}
    {options : DialOptions} {records : List LogRecord}
    (h : e.options environment = .ok (options, records)) :
    Override.Announced (e.connectTo.getD "") options records := by
  unfold ForwarderEntry.options at h
  dsimp only at h
  generalize hnamed : ({ origin := ensureScheme e.url, headers := e.accessHeaders environment } :
    DialOptions) = named at h
  have htls : named.tls = none := by rw [← hnamed]
  cases hresolve : named.resolve (e.connectTo.getD "") with
  | error cause =>
    rw [hresolve] at h
    cases h
  | ok result =>
    rw [hresolve] at h
    cases h
    exact DialOptions.resolve_announced htls hresolve

namespace Launch

/-! ### Listeners -/

theorem listen_options {system : System} {bound : List SocketAddress} {limits : Limits}
    {address : String} {options : DialOptions} {deadline : Option Duration} {f : Forwarder}
    (h : listen system bound limits address options deadline = .ok f) : f.options = options := by
  unfold listen at h
  split at h
  · cases h
  · rename_i g hbind
    cases h
    unfold Forwarder.bind at hbind
    split at hbind
    · cases hbind
    · split at hbind
      · cases hbind
      · cases hbind
        rfl

/-- Options that were made of a text, and what was reported then. -/
abbrev Built := DialOptions × List LogRecord

/-- Options that are announced as the text demands that they are made of. -/
def IsAnnounced (text : String) (b : Built) : Prop := Override.Announced text b.1 b.2

/-- The text of an entry that names the place to connect to; empty if there is none. -/
def entryText (e : ForwarderEntry) : String := e.connectTo.getD ""

/-- What an entry reports comes of making its options, which its listener is handed. -/
theorem listenFor_announced (system : System) (environment : Environment)
    (bound : List SocketAddress) (limits : Limits) (e : ForwarderEntry) :
    (∃ cause, listenFor system environment bound limits e = (.error cause, [])) ∨
      ∃ options records,
        Override.Announced (entryText e) options records ∧
          ∃ outcome, listenFor system environment bound limits e = (outcome, records) ∧
            ∀ f, outcome = .ok f → f.options = options := by
  unfold listenFor
  cases haddress : listenerAddress e.listener with
  | error cause => exact .inl ⟨_, rfl⟩
  | ok address =>
    cases hoptions : e.options environment with
    | error fault => exact .inl ⟨_, rfl⟩
    | ok built =>
      obtain ⟨options, records⟩ := built
      refine .inr ⟨options, records, ForwarderEntry.options_announced hoptions, _, rfl, ?_⟩
      intro f hf
      exact listen_options hf

/-- Entries are taken from left to right, until one cannot be listened for. What is reported comes
of making the options of those that were taken. -/
theorem listenAll_announced (system : System) (environment : Environment) (limits : Limits)
    (entries : List ForwarderEntry) (bound : List SocketAddress) :
    ∃ built : List Built,
      List.Forall₂ IsAnnounced ((entries.map entryText).take built.length) built ∧
        (listenAll system environment bound limits entries).2 = (built.map Prod.snd).flatten ∧
        ∀ fs, (listenAll system environment bound limits entries).1 = .ok fs →
          built.length = entries.length ∧ fs.map (·.options) = built.map Prod.fst := by
  -- the addresses that are bound grow with the entries that have been taken
  induction entries generalizing bound with
  | nil =>
    refine ⟨[], .nil, rfl, ?_⟩
    intro fs hfs
    cases hfs
    exact ⟨rfl, rfl⟩
  | cons e rest ih =>
    rcases listenFor_announced system environment bound limits e with
      ⟨cause, hfor⟩ | ⟨options, records, hannounced, outcome, hfor, hhanded⟩
    · refine ⟨[], .nil, ?_, ?_⟩
      · rw [listenAll, hfor]
        rfl
      · intro fs hfs
        rw [listenAll, hfor] at hfs
        cases hfs
    · cases outcome with
      | error cause =>
        refine ⟨[(options, records)], .cons hannounced .nil, ?_, ?_⟩
        · rw [listenAll, hfor]
          simp
        · intro fs hfs
          rw [listenAll, hfor] at hfs
          cases hfs
      | ok f =>
        obtain ⟨built, hall, hrecords, hoptions⟩ := ih (f.address :: bound)
        refine ⟨(options, records) :: built, .cons hannounced hall, ?_, ?_⟩
        · rw [listenAll, hfor]
          show records ++ (listenAll system environment (f.address :: bound) limits rest).2 = _
          rw [hrecords]
          rfl
        · intro fs hfs
          rw [listenAll, hfor] at hfs
          change (listenAll system environment (f.address :: bound) limits rest).1.map
            (f :: ·) = .ok fs at hfs
          cases hmore : (listenAll system environment (f.address :: bound) limits rest).1 with
          | error cause =>
            rw [hmore] at hfs
            cases hfs
          | ok more =>
            rw [hmore] at hfs
            cases hfs
            obtain ⟨hlength, hmap⟩ := hoptions more hmore
            refine ⟨congrArg (· + 1) hlength, ?_⟩
            rw [List.map_cons, List.map_cons, hmap, hhanded f rfl]

/-! ### The program -/

/-- The options that are handed to the dialer, for each place that is carried to. -/
def handed : Launch → List DialOptions
  | .tunnel options _ => [options]
  | .listeners forwarders => forwarders.map (·.options)

/-- The texts that name the places to connect to instead, for each place that is carried to; empty
where there is none. -/
def connectTexts (s : Surroundings) : List String :=
  match understand s with
  | .error _ => []
  | .ok (invocation, _) =>
    match invocation.command with
    | .ssh a => [a.connectTo.getD ""]
    | .forward path =>
      match Config.load s.files path with
      | .error _ => []
      | .ok config => config.forwarders.map entryText

/-- A single session is handed its options, whether it is a tunnel or a listener. -/
theorem single_handed {system : System} {limits : Limits} {a : SshArguments}
    {options : DialOptions} {launch : Launch} (h : single system limits a options = .ok launch) :
    launch.handed = [options] := by
  unfold single at h
  split at h
  · cases h
    rfl
  · split at h
    · cases h
    · rename_i address _
      cases hlisten : listen system [] limits address options a.deadline with
      | error cause =>
        rw [hlisten] at h
        cases h
      | ok f =>
        rw [hlisten] at h
        cases h
        show [f.options] = [options]
        rw [listen_options hlisten]

/-- What a run of the program hands to its dialer and reports before it carries anything: from left
to right options are made of the texts, all of them or those in front of a fault. Each of them is
announced, and nothing else warns. -/
def Announces (texts : List String) (outcome : Except ProgramFault Launch)
    (records : List LogRecord) : Prop :=
  ∃ (built : List Built) (others : List LogRecord),
    List.Forall₂ IsAnnounced (texts.take built.length) built ∧
      records = (built.map Prod.snd).flatten ++ others ∧
      (∀ r ∈ others, r.level ≠ .warn) ∧
      ∀ launch, outcome = .ok launch →
        built.length = texts.length ∧ launch.handed = built.map Prod.fst

/-- Nothing is handed over and nothing is reported. -/
theorem Announces.of_error (texts : List String) (fault : ProgramFault) :
    Announces texts (.error fault) [] := by
  refine ⟨[], [], .nil, rfl, ?_, ?_⟩
  · intro r hr
    cases hr
  · intro launch hlaunch
    cases hlaunch

/-- A single session announces the options that it is handed. -/
theorem ofArguments_announced (system : System) (limits : Limits) (a : SshArguments) :
    Announces [a.connectTo.getD ""] (ofArguments system limits a).1
      (ofArguments system limits a).2 := by
  unfold ofArguments
  cases hoptions : a.options with
  | error cause => exact Announces.of_error _ _
  | ok found =>
    obtain ⟨options, records⟩ := found
    refine ⟨[(options, records)], [], .cons (SshArguments.options_announced hoptions) .nil, ?_, ?_, ?_⟩
    · simp
    · intro r hr
      cases hr
    · intro launch hlaunch
      exact ⟨rfl, single_handed hlaunch⟩

/-- The listeners of a configuration announce the options that they are handed. -/
theorem ofConfig_announced (s : Surroundings) (limits : Limits) (path : String) :
    Announces
      (match Config.load s.files path with
        | .error _ => []
        | .ok config => config.forwarders.map entryText)
      (ofConfig s limits path).1 (ofConfig s limits path).2 := by
  unfold ofConfig
  cases hload : Config.load s.files path with
  | error fault => exact Announces.of_error _ _
  | ok config =>
    obtain ⟨built, hall, hrecords, hhanded⟩ :=
      listenAll_announced s.system s.environment limits config.forwarders []
    dsimp only
    generalize listenAll s.system s.environment [] limits config.forwarders = result at *
    obtain ⟨outcome, records⟩ := result
    dsimp only at hrecords hhanded
    cases outcome with
    | error fault =>
      refine ⟨built, [], hall, ?_, ?_, ?_⟩
      · rw [hrecords, List.append_nil]
      · intro r hr
        cases hr
      · intro launch hlaunch
        cases hlaunch
    | ok fs =>
      refine ⟨built, [startRecord fs.length], hall, ?_, ?_, ?_⟩
      · rw [hrecords]
      · intro r hr
        rw [List.mem_singleton] at hr
        subst hr
        nofun
      · intro launch hlaunch
        cases hlaunch
        obtain ⟨hlength, hmap⟩ := hhanded fs rfl
        refine ⟨?_, hmap⟩
        rw [hlength, List.length_map]

/-- In every run of the program a server is trusted without proof exactly where the text that names
it presents a name, and one warning says so. -/
theorem prepare_announced (s : Surroundings) (limits : Limits) :
    Announces (connectTexts s) (prepare s limits).1 (prepare s limits).2 := by
  unfold prepare connectTexts
  cases hunderstand : understand s with
  | error fault => exact Announces.of_error [] fault
  | ok found =>
    obtain ⟨⟨level, command⟩, filter⟩ := found
    cases command with
    | ssh a => exact ofArguments_announced s.system limits a
    | forward path => exact ofConfig_announced s limits path

/-- A run that is asked for a name at another host. -/
def presentingRun : Surroundings where
  arguments :=
    ["ssh", "--hostname", "ssh.example.com", "--connect-to", "spoofed.example:443:10.0.0.5"]
  environment := fun _ => none
  files := fun _ => .error .invalidPort
  system := System.free

/-- A name is presented, and the one record says so. -/
theorem prepare_announced_presenting :
    (∃ options, (prepare presentingRun {}).1 = .ok (.tunnel options none)) ∧
      Announces ["spoofed.example:443:10.0.0.5"] (prepare presentingRun {}).1
        [Override.warning "spoofed.example" "https://10.0.0.5:443"] :=
  ⟨⟨_, rfl⟩, prepare_announced presentingRun {}⟩

end Launch

end Carrier
