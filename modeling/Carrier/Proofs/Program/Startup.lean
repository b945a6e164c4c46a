import Carrier.Proofs.Config.Validity
import Carrier.Proofs.Program.Beginning
import Carrier.Proofs.Program.Script

/-!
# All listeners or none

A program that is asked for the listeners of a configuration begins with all of them, or it ends
before any of them accepts or dials. The whole configuration is looked at first; then the listeners
are bound one after the other. What is reported is the fault of the first entry that has one.

- `System.Binds`, `System.Declines`: the address that is bound for a text, or why there is none.
- `ForwarderEntry.Blocked`: why the listener of an entry cannot begin behind others.
- `ForwarderEntry.Begins`: the listener that an entry begins with.
- `Launch.Prevented`: why a program does not begin to listen.
- `Program.forward_starts`: what becomes of the program.
-/

namespace Carrier

/-! ### Each in its place -/

/-- `Each R before xs ys`: each of the elements `xs`, which stand behind `before`, is related to the
one of `ys` in its place. Whether one is may depend on those in front of it. -/
inductive Each {α β : Type} (R : List α → α → β → Prop) : List α → List α → List β → Prop where
  | nil {before : List α} : Each R before [] []
  | cons {before : List α} {x : α} {xs : List α} {y : β} {ys : List β} (here : R before x y)
    (rest : Each R (before ++ [x]) xs ys) : Each R before (x :: xs) (y :: ys)

/-! ### Binding -/

namespace System

/-- `system.Binds bound text place`: where some addresses have been bound, a text names a host and a
port, and the system refuses the addresses of the host in front of a place, but not this one. -/
inductive Binds (system : System) (bound : List SocketAddress) (text : String) :
    SocketAddress → Prop where
  | intro {named : SocketAddress} {front back : List String} {host : String}
    (parsed : SocketAddress.parse text = .ok named)
    (resolved : system.resolve named.host = .ok (front ++ host :: back))
    (refused : ∀ other ∈ front, system.refuses bound ⟨other, named.port⟩ ≠ none)
    (free : system.refuses bound ⟨host, named.port⟩ = none) :
    Binds system bound text ⟨host, named.port⟩

/-- `system.Declines bound text fault`: a text names no host and port, or the host has no addresses,
or the system refuses each of them. Of several refusals the last one counts. -/
inductive Declines (system : System) (bound : List SocketAddress) (text : String) :
    IoFault → Prop where
  | unparsed {fault : IoFault} (unparsed : SocketAddress.parse text = .error fault) :
    Declines system bound text fault
  | unresolved {named : SocketAddress} {fault : IoFault}
    (parsed : SocketAddress.parse text = .ok named)
    (unresolved : system.resolve named.host = .error fault) : Declines system bound text fault
  | refused {named : SocketAddress} {hosts : List String}
    (parsed : SocketAddress.parse text = .ok named)
    (resolved : system.resolve named.host = .ok hosts)
    (refused : ∀ host ∈ hosts, system.refuses bound ⟨host, named.port⟩ ≠ none) :
    Declines system bound text
      ((hosts.getLast?.bind fun host => system.refuses bound ⟨host, named.port⟩).getD .noAddress)

theorem bindFirst_eq_ok {system : System} {bound : List SocketAddress} {fault : IoFault}
    {port : Nat} {hosts : List String} {place : SocketAddress} :
    system.bindFirst bound fault (hosts.map fun host => ⟨host, port⟩) = .ok place ↔
      ∃ front host back, hosts = front ++ host :: back ∧ place = ⟨host, port⟩ ∧
        (∀ other ∈ front, system.refuses bound ⟨other, port⟩ ≠ none) ∧
          system.refuses bound ⟨host, port⟩ = none := by
  induction hosts generalizing fault with
  | nil => simp [bindFirst]
  | cons host rest ih =>
    rw [List.map_cons, bindFirst]
    cases hrefuses : system.refuses bound ⟨host, port⟩ with
    | none =>
      constructor
      · rintro ⟨⟩
        exact ⟨[], host, rest, rfl, rfl, fun other h => absurd h List.not_mem_nil, hrefuses⟩
      · rintro ⟨front, found, back, hsplit, rfl, hfront, -⟩
        cases front with
        | nil =>
          cases hsplit
          rfl
        | cons other front =>
          obtain ⟨rfl, -⟩ := List.cons.inj hsplit
          exact absurd hrefuses (hfront host List.mem_cons_self)
    | some refusal =>
      dsimp only
      rw [ih]
      constructor
      · rintro ⟨front, found, back, rfl, rfl, hfront, hfree⟩
        refine ⟨host :: front, found, back, rfl, rfl, ?_, hfree⟩
        intro other hother
        rcases List.mem_cons.mp hother with rfl | hother
        · rw [hrefuses]
          nofun
        · exact hfront other hother
      · rintro ⟨front, found, back, hsplit, rfl, hfront, hfree⟩
        cases front with
        | nil =>
          cases hsplit
          cases hrefuses.symm.trans hfree
        | cons other front =>
          obtain ⟨rfl, rfl⟩ := List.cons.inj hsplit
          exact ⟨front, found, back, rfl, rfl,
            fun other h => hfront other (List.mem_cons_of_mem host h), hfree⟩

theorem bindFirst_eq_error {system : System} {bound : List SocketAddress} {fault found : IoFault}
    {port : Nat} {hosts : List String} :
    system.bindFirst bound fault (hosts.map fun host => ⟨host, port⟩) = .error found ↔
      (∀ host ∈ hosts, system.refuses bound ⟨host, port⟩ ≠ none) ∧
        (hosts.getLast?.bind fun host => system.refuses bound ⟨host, port⟩).getD fault = found := by
  induction hosts generalizing fault with
  | nil => simp [bindFirst]
  | cons host rest ih =>
    rw [List.map_cons, bindFirst, List.forall_mem_cons]
    cases hrefuses : system.refuses bound ⟨host, port⟩ with
    | none => simp
    | some refusal =>
      dsimp only
      rw [ih, List.getLast?_cons]
      -- the refusal of this address counts where it is the last one
      cases hlast : rest.getLast? with
      | none => simp [hrefuses]
      | some last =>
        simp only [ne_eq, reduceCtorEq, not_false_iff, true_and, Option.bind_some,
          Option.getD_some]
        refine and_congr_right fun hall => ?_
        have hrefused := hall last (List.mem_of_getLast? hlast)
        obtain ⟨refusal, hlater⟩ := Option.ne_none_iff_exists'.mp hrefused
        rw [hlater, Option.getD_some, Option.getD_some]

/-- What is bound for a text is the first address of the host that the system lets be had. -/
theorem bind_eq_ok {system : System} {bound : List SocketAddress} {text : String}
    {place : SocketAddress} :
    system.bind bound text = .ok place ↔ system.Binds bound text place := by
  unfold bind
  constructor
  · intro h
    cases hparse : SocketAddress.parse text with
    | error fault =>
      rw [hparse] at h
      cases h
    | ok named =>
      simp only [hparse] at h
      cases hresolve : system.resolve named.host with
      | error fault =>
        rw [hresolve] at h
        cases h
      | ok hosts =>
        simp only [hresolve] at h
        obtain ⟨front, host, back, rfl, rfl, hfront, hfree⟩ := bindFirst_eq_ok.mp h
        exact .intro hparse hresolve hfront hfree
  · rintro ⟨parsed, resolved, refused, free⟩
    simp only [parsed, resolved]
    exact bindFirst_eq_ok.mpr ⟨_, _, _, rfl, rfl, refused, free⟩

/-- Otherwise there is none that the system lets be had. -/
theorem bind_eq_error {system : System} {bound : List SocketAddress} {text : String}
    {fault : IoFault} :
    system.bind bound text = .error fault ↔ system.Declines bound text fault := by
  unfold bind
  constructor
  · intro h
    cases hparse : SocketAddress.parse text with
    | error found =>
      rw [hparse] at h
      cases h
      exact .unparsed hparse
    | ok named =>
      simp only [hparse] at h
      cases hresolve : system.resolve named.host with
      | error found =>
        rw [hresolve] at h
        cases h
        exact .unresolved hparse hresolve
      | ok hosts =>
        simp only [hresolve] at h
        obtain ⟨hall, rfl⟩ := bindFirst_eq_error.mp h
        exact .refused hparse hresolve hall
  · rintro (unparsed | ⟨parsed, unresolved⟩ | ⟨parsed, resolved, refused⟩)
    · rw [unparsed]
    · simp only [parsed, unresolved]
    · simp only [parsed, resolved]
      exact bindFirst_eq_error.mpr ⟨refused, rfl⟩

end System

/-! ### Entries -/

namespace ForwarderEntry

/-- The options of the sessions of an entry are made. -/
def HasOptions (environment : Environment) (e : ForwarderEntry) (options : DialOptions) : Prop :=
  ∃ records, e.options environment = .ok (options, records)

/-- The address that the listener of an entry is bound to where others are, if there is one. -/
def place? (system : System) (bound : List SocketAddress) (e : ForwarderEntry) :
    Option SocketAddress :=
  (listenerAddress e.listener).toOption.bind fun text => (system.bind bound text).toOption

/-- The addresses that the listeners of entries are bound to from left to right, the last one
first. -/
def taken (system : System) (before : List ForwarderEntry) : List SocketAddress :=
  before.foldl (fun bound e => (e.place? system bound).toList ++ bound) []

/-- Behind an entry that has its listener, one more address is taken. -/
theorem taken_snoc {system : System} {before : List ForwarderEntry} {e : ForwarderEntry}
    {address : String} {place : SocketAddress} (haddress : e.HasAddress address)
    (hbind : system.bind (taken system before) address = .ok place) :
    taken system (before ++ [e]) = place :: taken system before := by
  have hplace : e.place? system (taken system before) = some place := by
    unfold place?
    rw [show listenerAddress e.listener = .ok address from haddress]
    show (system.bind (taken system before) address).toOption = some place
    rw [hbind]
    rfl
  rw [taken, List.foldl_append]
  show (e.place? system (taken system before)).toList ++ taken system before = _
  rw [hplace]
  rfl

/-- Why the listener of an entry cannot begin behind those of others: the options are not made, or
else they cannot be dialed, or else the address is not to be had. -/
inductive Blocked (system : System) (environment : Environment) (before : List ForwarderEntry)
    (e : ForwarderEntry) : ProgramFault → Prop where
  | unbuilt {fault : ConfigFault} (unbuilt : e.options environment = .error fault) :
    Blocked system environment before e (.config fault)
  | invalid {address : String} {options : DialOptions} {cause : SetupError}
    (here : e.HasAddress address) (built : e.HasOptions environment options)
    (invalid : options.validate = .error cause) :
    Blocked system environment before e (.listen address (.setup cause))
  | unbound {address : String} {options : DialOptions} {fault : IoFault}
    (here : e.HasAddress address) (built : e.HasOptions environment options)
    (valid : options.validate = .ok ())
    (unbound : system.Declines (taken system before) address fault) :
    Blocked system environment before e (.listen address (.bind address fault))

/-- The listener that an entry begins with behind others: its own address, options and deadline. -/
inductive Begins (system : System) (environment : Environment) (limits : Limits)
    (before : List ForwarderEntry) (e : ForwarderEntry) : Forwarder → Prop where
  | intro {address : String} {options : DialOptions} {place : SocketAddress}
    (here : e.HasAddress address) (built : e.HasOptions environment options)
    (valid : options.validate = .ok ()) (bound : system.Binds (taken system before) address place) :
    Begins system environment limits before e
      { options := options, address := place, limits := limits, deadline := e.deadline }

end ForwarderEntry

namespace Launch

open ForwarderEntry

variable {system : System} {environment : Environment} {limits : Limits}
  {before : List ForwarderEntry} {e : ForwarderEntry}

/-- What the listener of an entry comes to. -/
theorem listenFor_eq {bound : List SocketAddress} {address : String} (h : e.HasAddress address) :
    (listenFor system environment bound limits e).1 =
      match e.options environment with
      | .error fault => .error (.config fault)
      | .ok (options, _) => listen system bound limits address options e.deadline := by
  unfold listenFor
  rw [show listenerAddress e.listener = .ok address from h]
  dsimp only
  cases e.options environment <;> rfl

theorem listen_eq {bound : List SocketAddress} {address : String} {options : DialOptions}
    {deadline : Option Duration} :
    listen system bound limits address options deadline =
      match options.validate with
      | .error cause => .error (.listen address (.setup cause))
      | .ok _ =>
        match system.bind bound address with
        | .error fault => .error (.listen address (.bind address fault))
        | .ok place =>
          .ok { options := options, address := place, limits := limits, deadline := deadline } := by
  unfold listen Forwarder.bind
  cases options.validate with
  | error cause => rfl
  | ok _ =>
    dsimp only
    cases system.bind bound address <;> rfl

/-- The listener of an entry does not begin exactly where something is in its way, and that is what
is reported. -/
theorem listenFor_eq_error {address : String} (haddress : e.HasAddress address)
    (fault : ProgramFault) :
    (listenFor system environment (taken system before) limits e).1 = .error fault ↔
      Blocked system environment before e fault := by
  rw [listenFor_eq haddress]
  -- the options first, then what they say, then the address
  cases hoptions : e.options environment with
  | error found =>
    constructor
    · rintro ⟨⟩
      exact .unbuilt hoptions
    · rintro (unbuilt | ⟨-, ⟨records, built⟩, -⟩ | ⟨-, ⟨records, built⟩, -, -⟩)
      · cases hoptions.symm.trans unbuilt
        rfl
      all_goals cases hoptions.symm.trans built
  | ok built =>
    obtain ⟨options, records⟩ := built
    have hbuilt : e.HasOptions environment options := ⟨records, hoptions⟩
    dsimp only
    rw [listen_eq]
    constructor
    · intro h
      cases hvalidate : options.validate with
      | error cause =>
        rw [hvalidate] at h
        cases h
        exact .invalid haddress hbuilt hvalidate
      | ok _ =>
        rw [hvalidate] at h
        cases hbind : system.bind (taken system before) address with
        | error found =>
          simp only [hbind] at h
          cases h
          exact .unbound haddress hbuilt hvalidate (System.bind_eq_error.mp hbind)
        | ok place =>
          simp only [hbind] at h
          cases h
    · rintro (unbuilt | ⟨here, ⟨_, built⟩, invalid⟩ | ⟨here, ⟨_, built⟩, valid, unbound⟩)
      · cases hoptions.symm.trans unbuilt
      · cases hoptions.symm.trans built
        cases haddress.symm.trans here
        rw [invalid]
      · cases hoptions.symm.trans built
        cases haddress.symm.trans here
        rw [valid]
        dsimp only
        rw [System.bind_eq_error.mpr unbound]

/-- The listener that begins is that of the entry, and its address is taken from then on. -/
theorem listenFor_begins {address : String} (haddress : e.HasAddress address) {f : Forwarder}
    (h : (listenFor system environment (taken system before) limits e).1 = .ok f) :
    Begins system environment limits before e f ∧
      taken system (before ++ [e]) = f.address :: taken system before := by
  rw [listenFor_eq haddress] at h
  cases hoptions : e.options environment with
  | error found =>
    rw [hoptions] at h
    cases h
  | ok built =>
    obtain ⟨options, records⟩ := built
    rw [hoptions] at h
    obtain ⟨hvalid, place, hplace, rfl⟩ := listen_eq_ok.mp h
    exact ⟨.intro haddress ⟨records, hoptions⟩ hvalid (System.bind_eq_ok.mp hplace),
      taken_snoc haddress hplace⟩

/-- The listeners of entries begin from left to right, and the first that cannot is reported. -/
theorem listenAll_eq_error {entries : List ForwarderEntry}
    (haddresses : ∀ e ∈ entries, ∃ address, e.HasAddress address) (fault : ProgramFault) :
    (listenAll system environment (taken system before) limits entries).1 = .error fault ↔
      First (Blocked system environment) before entries fault := by
  -- the addresses that are taken grow with the entries whose listeners have begun
  induction entries generalizing before with
  | nil => exact ⟨nofun, fun hfirst => absurd hfirst First.not_nil⟩
  | cons e rest ih =>
    obtain ⟨address, haddress⟩ := haddresses e List.mem_cons_self
    have herror (fault : ProgramFault) :
        (listenFor system environment (taken system before) limits e).1 = .error fault ↔
          Blocked system environment before e fault :=
      listenFor_eq_error haddress fault
    rw [listenAll_cons]
    cases hfor : (listenFor system environment (taken system before) limits e).1 with
    | error found =>
      have hsame (f : ProgramFault) (hf : Blocked system environment before e f) : f = found := by
        cases hfor.symm.trans ((herror f).mpr hf)
        rfl
      rw [first_of_refused ((herror found).mp hfor) hsame]
      exact ⟨fun heq => (Except.error.inj heq).symm, fun heq => by rw [heq]⟩
    | ok f =>
      -- an entry whose listener has begun has nothing in its way
      have hpasses (fault : ProgramFault) : ¬ Blocked system environment before e fault := by
        intro hblocked
        cases hfor.symm.trans ((herror fault).mpr hblocked)
      rw [first_cons hpasses, ← ih fun d hd => haddresses d (List.mem_cons_of_mem e hd),
        (listenFor_begins haddress hfor).2]
      dsimp only
      cases (listenAll system environment (f.address :: taken system before) limits rest).1 <;>
        simp [Except.map]

/-- Where all of them begin, each is that of its entry. -/
theorem listenAll_begins {entries : List ForwarderEntry}
    (haddresses : ∀ e ∈ entries, ∃ address, e.HasAddress address) {fs : List Forwarder}
    (h : (listenAll system environment (taken system before) limits entries).1 = .ok fs) :
    Each (Begins system environment limits) before entries fs := by
  induction entries generalizing before fs with
  | nil =>
    cases h
    exact .nil
  | cons e rest ih =>
    obtain ⟨address, haddress⟩ := haddresses e List.mem_cons_self
    rw [listenAll_cons] at h
    cases hfor : (listenFor system environment (taken system before) limits e).1 with
    | error found =>
      rw [hfor] at h
      cases h
    | ok f =>
      obtain ⟨hbegins, htaken⟩ := listenFor_begins haddress hfor
      rw [hfor] at h
      dsimp only at h
      rw [← htaken] at h
      cases hmore : (listenAll system environment (taken system (before ++ [e])) limits rest).1 with
      | error found =>
        rw [hmore] at h
        cases h
      | ok more =>
        rw [hmore] at h
        cases h
        exact .cons hbegins (ih (fun d hd => haddresses d (List.mem_cons_of_mem e hd)) hmore)

/-! ### What is reported -/

/-- All of some records are warnings. -/
def OnlyWarn (records : List LogRecord) : Prop := ∀ r ∈ records, r.level = .warn

theorem resolve_warns {raw : String} {base options : DialOptions} {records : List LogRecord}
    (h : base.resolve raw = .ok (options, records)) : OnlyWarn records := by
  rcases DialOptions.resolve_eq_ok.mp h with ⟨-, -, rfl⟩ | ⟨o, -, happly⟩
  · exact fun r hr => absurd hr List.not_mem_nil
  · rw [Override.apply_eq] at happly
    cases happly
    intro r hr
    obtain ⟨tls, -, rfl⟩ := List.mem_map.mp hr
    rfl

theorem listenFor_warns (bound : List SocketAddress) (e : ForwarderEntry) :
    OnlyWarn (listenFor system environment bound limits e).2 := by
  unfold listenFor
  cases listenerAddress e.listener with
  | error cause => exact fun r hr => absurd hr List.not_mem_nil
  | ok address =>
    dsimp only
    cases hoptions : e.options environment with
    | error fault => exact fun r hr => absurd hr List.not_mem_nil
    | ok built =>
      obtain ⟨options, records⟩ := built
      show OnlyWarn records
      unfold ForwarderEntry.options at hoptions
      dsimp only at hoptions
      generalize ({ origin := ensureScheme e.url, headers := e.accessHeaders environment } :
        DialOptions) = named at hoptions
      cases hresolve : named.resolve (e.connectTo.getD "") with
      | error cause =>
        rw [hresolve] at hoptions
        cases hoptions
      | ok result =>
        rw [hresolve] at hoptions
        cases hoptions
        exact resolve_warns hresolve

theorem listenAll_warns (bound : List SocketAddress) (entries : List ForwarderEntry) :
    OnlyWarn (listenAll system environment bound limits entries).2 := by
  induction entries generalizing bound with
  | nil => exact fun r hr => absurd hr List.not_mem_nil
  | cons e rest ih =>
    have hfirst : OnlyWarn (listenFor system environment bound limits e).2 :=
      listenFor_warns bound e
    rw [listenAll]
    cases hfor : listenFor system environment bound limits e with
    | mk outcome records =>
      rw [hfor] at hfirst
      cases outcome with
      | error fault => exact hfirst
      | ok f =>
        intro r hr
        rcases List.mem_append.mp hr with hr | hr
        · exact hfirst r hr
        · exact ih (f.address :: bound) r hr

/-! ### The program -/

/-- Why a program does not begin to listen for the configuration in a file: the configuration is not
used, or else something is in the way of a listener and of none in front of it. -/
inductive Prevented (s : Surroundings) (path : String) : ProgramFault → Prop where
  | unusable {fault : ConfigFault} (unusable : Config.Unusable s.files path fault) :
    Prevented s path (.config fault)
  | blocked {config : Config} {fault : ProgramFault}
    (loaded : Config.load s.files path = .ok config)
    (first : First (Blocked s.system s.environment) [] config.forwarders fault) :
    Prevented s path fault

/-- What the configuration in a file comes to. -/
theorem ofConfig_eq {s : Surroundings} {path : String} {config : Config}
    (h : Config.load s.files path = .ok config) :
    (ofConfig s limits path).1 =
      (listenAll s.system s.environment [] limits config.forwarders).1.map .listeners := by
  unfold ofConfig
  rw [h]
  dsimp only
  obtain ⟨outcome, records⟩ := listenAll s.system s.environment [] limits config.forwarders
  cases outcome <;> rfl

/-- A program does not begin to listen exactly where something prevents it. -/
theorem ofConfig_eq_error {s : Surroundings} {path : String} {fault : ProgramFault} :
    (ofConfig s limits path).1 = .error fault ↔ Prevented s path fault := by
  cases hload : Config.load s.files path with
  | error found =>
    have hfails : (ofConfig s limits path).1 = .error (.config found) := by
      unfold ofConfig
      rw [hload]
    rw [hfails]
    constructor
    · rintro ⟨⟩
      exact .unusable (Config.load_eq_error.mp hload)
    · rintro (hunusable | ⟨loaded, -⟩)
      · cases hload.symm.trans (Config.load_eq_error.mpr hunusable)
        rfl
      · cases hload.symm.trans loaded
  | ok config =>
    have hall : (listenAll s.system s.environment [] limits config.forwarders).1 = .error fault ↔
        First (Blocked s.system s.environment) [] config.forwarders fault :=
      @listenAll_eq_error s.system s.environment limits [] _ (Config.load_eq_ok hload).2 fault
    rw [ofConfig_eq hload]
    constructor
    · intro h
      refine .blocked hload (hall.mp ?_)
      revert h
      cases (listenAll s.system s.environment [] limits config.forwarders).1 <;> simp [Except.map]
    · rintro (hunusable | ⟨loaded, first⟩)
      · cases hload.symm.trans (Config.load_eq_error.mpr hunusable)
      · cases hload.symm.trans loaded
        rw [hall.mpr first]
        rfl

theorem ofConfig_warns {s : Surroundings} {path : String} {fault : ProgramFault}
    {records : List LogRecord} (h : ofConfig s limits path = (.error fault, records)) :
    OnlyWarn records := by
  unfold ofConfig at h
  split at h
  · cases h
    exact fun r hr => absurd hr List.not_mem_nil
  · rename_i config _
    split at h
    · rename_i hlisten
      cases h
      have hwarns : OnlyWarn (listenAll s.system s.environment [] limits config.forwarders).2 :=
        listenAll_warns [] config.forwarders
      rw [hlisten] at hwarns
      exact hwarns
    · cases h

/-- Otherwise it listens for every entry, with the listener of the entry. -/
theorem ofConfig_eq_ok {s : Surroundings} {path : String} {launch : Launch}
    {records : List LogRecord} (h : ofConfig s limits path = (.ok launch, records)) :
    ∃ config fs warnings, Config.load s.files path = .ok config ∧ launch = .listeners fs ∧
      Each (Begins s.system s.environment limits) [] config.forwarders fs ∧
      records = warnings ++ [startRecord fs.length] ∧ OnlyWarn warnings := by
  unfold ofConfig at h
  cases hload : Config.load s.files path with
  | error found =>
    rw [hload] at h
    cases h
  | ok config =>
    rw [hload] at h
    dsimp only at h
    have hwarns : OnlyWarn (listenAll s.system s.environment [] limits config.forwarders).2 :=
      listenAll_warns [] config.forwarders
    cases hlisten : listenAll s.system s.environment [] limits config.forwarders with
    | mk outcome warnings =>
      rw [hlisten] at h hwarns
      cases outcome with
      | error found => cases h
      | ok fs =>
        cases h
        exact ⟨config, fs, warnings, rfl, rfl,
          listenAll_begins (Config.load_eq_ok hload).2 (congrArg Prod.fst hlisten), rfl, hwarns⟩

theorem prepare_forward {s : Surroundings} {path : String} (h : configPath? s = some path)
    (limits : Limits) : prepare s limits = ofConfig s limits path := by
  unfold configPath? at h
  unfold prepare
  cases hunderstand : understand s with
  | error fault =>
    rw [hunderstand] at h
    cases h
  | ok found =>
    obtain ⟨⟨level, command⟩, filter⟩ := found
    rw [hunderstand] at h
    cases command with
    | ssh a => cases h
    | forward other =>
      cases h
      rfl

/-- What keeps a program from listening is reported as a chain of causes. -/
theorem Prevented.exit {s : Surroundings} {path : String} {fault : ProgramFault}
    (h : Prevented s path fault) : fault.exit = ⟨1, Report.write fault.chain⟩ := by
  cases h with
  | unusable unusable => rfl
  | blocked loaded first =>
    obtain ⟨before, e, hblocked⟩ := first.refused
    cases hblocked <;> rfl

end Launch

namespace Program

open ForwarderEntry

variable {dialer : Dialer} {s : Surroundings} {path : String}

/-- Whatever is in the file, the environment and the system, a program that is asked for the
listeners of a configuration begins with all of them or with none. It fails exactly where the
configuration is not used or something is in the way of a listener, and then with the fault of the
first entry that has one: it exits with code 1 and the chain of its causes, and nothing is accepted,
dialed or reported but warnings, whatever happens around it. Otherwise each entry has its own
listener, which accepts. -/
theorem forward_starts (hforward : Launch.configPath? s = some path) :
    (∀ fault, (start dialer s).1 = .failed fault ↔ Launch.Prevented s path fault) ∧
    (∀ fault, Launch.Prevented s path fault →
      (start dialer s).1.exit? = some ⟨1, Report.write fault.chain⟩ ∧
      Launch.OnlyWarn (start dialer s).2 ∧
      ∀ script, ∀ x ∈ (start dialer s).1.states script, x = (.failed fault, ⟨[], none, []⟩)) ∧
    ((∀ fault, ¬ Launch.Prevented s path fault) →
      ∃ config fs warnings, Config.load s.files path = .ok config ∧
        Each (Begins s.system s.environment dialer.limits) [] config.forwarders fs ∧
        start dialer s = (.listening { dialer := dialer, forwarders := fs, phase := .serving },
          warnings ++ [Launch.startRecord fs.length] ++ fs.map Forwarder.startRecord) ∧
        Launch.OnlyWarn warnings) := by
  have hprepare := Launch.prepare_forward hforward dialer.limits
  cases hconfig : Launch.ofConfig s dialer.limits path with
  | mk outcome records =>
    rw [hconfig] at hprepare
    have herror (fault : ProgramFault) :
        outcome = .error fault ↔ Launch.Prevented s path fault := by
      have h : (Launch.ofConfig s dialer.limits path).1 = .error fault ↔ _ :=
        Launch.ofConfig_eq_error
      rwa [hconfig] at h
    cases outcome with
    | error found =>
      have hstart : start dialer s = (.failed found, records) := by
        unfold start
        rw [hprepare]
      rw [hstart]
      refine ⟨?_, ?_, ?_⟩
      · intro fault
        rw [← herror fault]
        simp
      · intro fault hprevented
        cases (herror fault).mpr hprevented
        exact ⟨congrArg some hprevented.exit, Launch.ofConfig_warns hconfig, states_failed found⟩
      · exact fun hfree => absurd ((herror found).mp rfl) (hfree found)
    | ok launch =>
      obtain ⟨config, fs, warnings, hload, rfl, hbegin, rfl, hwarns⟩ :=
        Launch.ofConfig_eq_ok hconfig
      have hstart : start dialer s =
          (.listening { dialer := dialer, forwarders := fs, phase := .serving },
            warnings ++ [Launch.startRecord fs.length] ++ fs.map Forwarder.startRecord) := by
        unfold start
        rw [hprepare]
        rfl
      rw [hstart]
      refine ⟨?_, ?_, ?_⟩
      · intro fault
        rw [← herror fault]
        constructor <;> nofun
      · intro fault hprevented
        cases (herror fault).mpr hprevented
      · exact fun _ => ⟨config, fs, warnings, hload, hbegin, rfl, hwarns⟩

/-- A system on which one host has two addresses and others have themselves, and on which no address
is bound twice. -/
def sharedHost : System where
  resolve := fun host => .ok (if host = "localhost" then ["::1", "127.0.0.1"] else [host])
  refuses := fun bound place => if place ∈ bound then some (.system .addressInUse) else none

/-- A run for a configuration with listeners on some addresses. -/
def sharing (listeners : List String) : Surroundings where
  arguments := ["forward", "--config", "forwarders.yml"]
  environment := fun _ => none
  files := fun _ => .ok (Utf8.encode ("forwarders:\n" ++ String.join (listeners.map fun listener =>
    "- \x7burl: a, listener: \"" ++ listener ++ "\"\x7d\n")).toList)
  system := sharedHost

/-- Where each of two listeners has one of the addresses of a host on a port, a third one has
neither, and none accepts. Where each has one on a port of its own, two more share what is left. -/
theorem forward_starts_shared :
    let blocked := sharing ["[::1]:1", "127.0.0.1:1", "localhost:1"]
    let fault : ProgramFault := .listen "localhost:1" (.bind "localhost:1" (.system .addressInUse))
    let free := sharing ["[::1]:1", "127.0.0.1:2", "localhost:1", "localhost:2"]
    (Launch.configPath? blocked = some "forwarders.yml" ∧
      Launch.Prevented blocked "forwarders.yml" fault ∧
      (start {} blocked).1 = .failed fault ∧
      (start {} blocked).1.exit? = some ⟨1, Report.write fault.chain⟩) ∧
    Launch.configPath? free = some "forwarders.yml" ∧
    (∀ fault, ¬ Launch.Prevented free "forwarders.yml" fault) ∧
    ∃ config fs, Config.load free.files "forwarders.yml" = .ok config ∧
      Each (Begins free.system free.environment ({} : Dialer).limits) [] config.forwarders fs ∧
      (start {} free).1 = .listening { dialer := {}, forwarders := fs, phase := .serving } := by
  intro blocked fault free
  have hforward : Launch.configPath? blocked = some "forwarders.yml" := by decide +kernel
  have hfault :
      (Launch.ofConfig blocked ({} : Dialer).limits "forwarders.yml").1 = .error fault := by
    decide +kernel
  have hprevented : Launch.Prevented blocked "forwarders.yml" fault :=
    Launch.ofConfig_eq_error.mp hfault
  have hforward' : Launch.configPath? free = some "forwarders.yml" := by decide +kernel
  have hbegins : (Launch.ofConfig free ({} : Dialer).limits "forwarders.yml").1.isOk = true := by
    decide +kernel
  have hnone (fault : ProgramFault) : ¬ Launch.Prevented free "forwarders.yml" fault := by
    intro hprevented
    rw [Launch.ofConfig_eq_error.mpr hprevented] at hbegins
    cases hbegins
  obtain ⟨hfailed, hexit, -⟩ := forward_starts hforward
  obtain ⟨-, -, hstarts⟩ := forward_starts hforward'
  obtain ⟨config, fs, warnings, hload, hall, hstart, -⟩ := hstarts hnone
  exact ⟨⟨hforward, hprevented, (hfailed fault).mpr hprevented, (hexit fault hprevented).1⟩,
    hforward', hnone, config, fs, hload, hall, congrArg Prod.fst hstart⟩

end Program

end Carrier
