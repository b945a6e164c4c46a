import Carrier.Proofs.CommandLine.Tokens
import Carrier.Proofs.Program.Outline

/-!
# The service token is kept secret

Two runs of the program that differ in nothing but the service token look the same from outside:
they report the same, carry the same bytes and end the same way. The requests that they send differ
in the token itself, and the places that a fault of the configuration names may differ with its
length.

- `Surroundings.Alike`: what two such runs find when they begin.
- `Launch.prepare_alike`: what they are going to do.
- `Program.SameEnd`, `Program.SameStep`: what is the same of two runs.
- `Program.token_secret`: the theorem; `Program.token_secret_sample` is a case of it.
- `Program.token_reported`: where the report of a fault does depend on the token.
-/

namespace Carrier

/-! ### What two runs find -/

/-- What two runs find that differ in nothing but the service token. -/
structure Surroundings.Alike (s t : Surroundings) : Prop where
  /-- The command lines differ in nothing else. -/
  words : WordsAlike s.arguments t.arguments
  /-- For help they are the same. -/
  help : Invocation.AsksHelp s.arguments → s.arguments = t.arguments
  /-- Where help is shown the identity in the environment is the same, since the help names it. -/
  shown : Invocation.parse s.environment s.arguments = .error .helpAsked →
    s.environment "WSCARRIER_SERVICE_TOKEN_ID" = t.environment "WSCARRIER_SERVICE_TOKEN_ID"
  /-- The environments differ in nothing else. -/
  environment : s.environment.Alike t.environment
  /-- Nor do the files. -/
  files : ∀ path, FileAlike (s.files path) (t.files path)
  /-- The system is the same. -/
  system : s.system = t.system

/-- Two faults that differ in nothing but the places in the configuration that they name. -/
def ProgramFault.Alike (f g : ProgramFault) : Prop := f.unplaced = g.unplaced

theorem ProgramFault.Alike.refl (f : ProgramFault) : f.Alike f := rfl

/-- Faults that are not the same are faults of the text of a configuration. -/
theorem ProgramFault.Alike.cases {f g : ProgramFault} (h : f.Alike g) :
    f = g ∨ ∃ a b, f = .config (.malformed a) ∧ g = .config (.malformed b) ∧ a.Alike b := by
  cases f with
  | config f =>
    cases g with
    | config g =>
      obtain rfl | ⟨a, b, rfl, rfl, hab⟩ := ConfigFault.Alike.cases (ProgramFault.config.inj h)
      · exact Or.inl rfl
      · exact Or.inr ⟨a, b, rfl, rfl, hab⟩
    | _ => cases h
  | _ => cases g <;> first | exact Or.inl h | cases h

/-! ### Options -/

/-- Options and what is reported, for sessions that differ in nothing but the secrets among their
headers. -/
def OptionsAlike (x y : DialOptions × List LogRecord) : Prop :=
  x.1.outlined = y.1.outlined ∧ x.2 = y.2

/-- The options of sessions for arguments that differ in nothing but the token. -/
theorem SshArguments.options_alike {a b : SshArguments} (h : a.outlined = b.outlined) :
    ExceptRel Eq OptionsAlike a.options b.options := by
  obtain ⟨hhost, hpairs, hid, hsecret, hdestination, hplace, -, -⟩ := SshArguments.mk.inj h
  have hheaders : a.accessHeaders.outlined = b.accessHeaders.outlined := by
    rw [accessHeaders, accessHeaders, HeaderMap.forAccess_outlined, HeaderMap.forAccess_outlined,
      show a.headers = b.headers from hpairs, show a.destination = b.destination from hdestination]
    exact congrArg₂ (fun id secret => HeaderMap.forAccess b.headers id secret b.destination) hid
      hsecret
  have hmap : a.options.map (Prod.map DialOptions.outlined id)
      = b.options.map (Prod.map DialOptions.outlined id) := by
    simp only [options]
    rw [← DialOptions.resolve_outlined, ← DialOptions.resolve_outlined]
    have hhost : a.hostname = b.hostname := hhost
    have hplace : a.connectTo = b.connectTo := hplace
    simp only [DialOptions.outlined, hheaders, hhost, hplace]
  exact (ExceptRel.of_map_eq hmap).imp (fun _ _ h => h) fun _ _ h => Prod.mk.inj h

/-! ### Launching -/

namespace Launch

/-- What is going to be done, with the secrets among the headers outlined. -/
def outlined : Launch → Launch
  | .tunnel options deadline => .tunnel options.outlined deadline
  | .listeners forwarders => .listeners (forwarders.map Forwarder.outlined)

/-- Two launches that differ in nothing but secrets. -/
def Alike (x y : Launch) : Prop := x.outlined = y.outlined

/-- Two listeners that differ in nothing but secrets. -/
def ListenerAlike (f g : Forwarder) : Prop := f.outlined = g.outlined

theorem listen_alike (system : System) (bound : List SocketAddress) (limits : Limits)
    (address : String) {o o' : DialOptions} (h : o.outlined = o'.outlined)
    (deadline : Option Duration) :
    ExceptRel Eq ListenerAlike (listen system bound limits address o deadline)
      (listen system bound limits address o' deadline) := by
  have hbind : (Forwarder.bind system bound address o).map Forwarder.outlined
      = (Forwarder.bind system bound address o').map Forwarder.outlined := by
    rw [← Forwarder.bind_outlined, ← Forwarder.bind_outlined, h]
  have hrel := ExceptRel.of_map_eq hbind
  simp only [listen]
  revert hrel
  generalize Forwarder.bind system bound address o = x
  generalize Forwarder.bind system bound address o' = y
  rintro (hfg | rfl)
  · refine .ok ?_
    have hset := congrArg
      (fun f : Forwarder => { f with limits := limits, deadline := deadline }) hfg
    exact hset
  · exact .error rfl

theorem single_alike (system : System) (limits : Limits) {a b : SshArguments}
    (h : a.outlined = b.outlined) {o o' : DialOptions} (ho : o.outlined = o'.outlined) :
    ExceptRel Eq Alike (single system limits a o) (single system limits b o') := by
  obtain ⟨-, -, -, -, -, -, hurl, htimeout⟩ := SshArguments.mk.inj h
  have hdeadline : a.deadline = b.deadline := congrArg (Option.map Duration.seconds) htimeout
  simp only [single, show a.url = b.url from hurl, hdeadline]
  cases b.url with
  | none => exact .ok (congrArg (Launch.tunnel · b.deadline) ho)
  | some raw =>
    dsimp only
    cases listenerAddress raw with
    | error cause => exact .error rfl
    | ok address =>
      refine (listen_alike system [] limits address ho b.deadline).map fun f g hfg => ?_
      have hone := congrArg (fun f => Launch.listeners [f]) hfg
      exact hone

/-- What two runs come to, and what they report on the way. -/
structure OutcomeAlike {α : Type} (R : α → α → Prop)
    (x y : Except ProgramFault α × List LogRecord) : Prop where
  /-- The outcomes differ in nothing but secrets, or are faults that differ in places. -/
  outcome : ExceptRel ProgramFault.Alike R x.1 y.1
  /-- The records are the same. -/
  records : x.2 = y.2

theorem of_eq {α : Type} {R : α → α → Prop} {x y : Except ProgramFault α}
    (h : ExceptRel Eq R x y) : ExceptRel ProgramFault.Alike R x y :=
  h.imp (fun f _ h => h ▸ ProgramFault.Alike.refl f) fun _ _ h => h

theorem ofArguments_alike (system : System) (limits : Limits) {a b : SshArguments}
    (h : a.outlined = b.outlined) :
    OutcomeAlike Alike (ofArguments system limits a) (ofArguments system limits b) := by
  have hoptions := SshArguments.options_alike h
  simp only [ofArguments]
  revert hoptions
  generalize a.options = x
  generalize b.options = y
  rintro (⟨ho, hrecords⟩ | rfl)
  · exact ⟨of_eq (single_alike system limits h ho), hrecords⟩
  · exact ⟨.error rfl, rfl⟩

/-! ### Configurations -/

section Config

variable {environment environment' : Environment} (henv : environment.Alike environment')

include henv

theorem listenFor_alike (system : System) (bound : List SocketAddress) (limits : Limits)
    {e f : ForwarderEntry} (h : e.Alike f) :
    OutcomeAlike ListenerAlike (listenFor system environment bound limits e)
      (listenFor system environment' bound limits f) := by
  have hlistener : f.listener = e.listener := by rw [h.same]
  have hdeadline : f.deadline = e.deadline := by rw [h.same]; rfl
  have hoptions := ExceptRel.of_map_eq (ForwarderEntry.options_alike h henv)
  simp only [listenFor, hlistener, hdeadline]
  cases listenerAddress e.listener with
  | error cause => exact ⟨.error rfl, rfl⟩
  | ok address =>
    dsimp only
    revert hoptions
    generalize e.options environment = x
    generalize f.options environment' = y
    rintro (ho | rfl)
    · obtain ⟨ho, hrecords⟩ := Prod.mk.inj ho
      exact ⟨of_eq (listen_alike system bound limits address ho e.deadline), hrecords⟩
    · exact ⟨.error rfl, rfl⟩

theorem listenAll_alike (system : System) (limits : Limits) {es fs : List ForwarderEntry}
    (h : List.Forall₂ ForwarderEntry.Alike es fs) (bound : List SocketAddress) :
    OutcomeAlike (List.Forall₂ ListenerAlike) (listenAll system environment bound limits es)
      (listenAll system environment' bound limits fs) := by
  induction h generalizing bound with
  | nil => exact ⟨.ok .nil, rfl⟩
  | @cons e f es fs hentry _ ih =>
    have hfor := listenFor_alike henv system bound limits hentry
    simp only [listenAll]
    revert hfor
    generalize listenFor system environment bound limits e = x
    generalize listenFor system environment' bound limits f = y
    obtain ⟨x, records⟩ := x
    obtain ⟨y, records'⟩ := y
    rintro ⟨houtcome, rfl⟩
    cases houtcome with
    | error related => exact ⟨.error related, rfl⟩
    | @ok g k related =>
      -- what is bound already decides whether the next one can be, and is the same
      have haddress : k.address = g.address :=
        (congrArg Forwarder.address (show g.outlined = k.outlined from related)).symm
      have hrest := ih (g.address :: bound)
      dsimp only
      rw [haddress]
      exact ⟨hrest.outcome.map fun _ _ h => .cons related h,
        congrArg (records ++ ·) hrest.records⟩

end Config

/-! ### The program -/

theorem ofConfig_alike {s t : Surroundings} (h : s.Alike t) (limits : Limits) (path : String) :
    OutcomeAlike Alike (ofConfig s limits path) (ofConfig t limits path) := by
  have hload := Config.load_alike (h.files path)
  simp only [ofConfig]
  revert hload
  generalize Config.load s.files path = x
  generalize Config.load t.files path = y
  rintro (hconfig | hfault)
  · have hall := listenAll_alike h.environment s.system limits hconfig []
    rw [h.system] at hall
    dsimp only
    rw [h.system]
    revert hall
    generalize listenAll t.system s.environment [] limits _ = x
    generalize listenAll t.system t.environment [] limits _ = y
    obtain ⟨x, records⟩ := x
    obtain ⟨y, records'⟩ := y
    rintro ⟨houtcome, rfl⟩
    cases houtcome with
    | error related => exact ⟨.error related, rfl⟩
    | @ok fs gs related =>
      have hmap : fs.map Forwarder.outlined = gs.map Forwarder.outlined := by
        rw [← List.forall₂_eq_eq_eq, List.forall₂_map_left_iff, List.forall₂_map_right_iff]
        exact related
      refine ⟨.ok (congrArg Launch.listeners hmap), ?_⟩
      dsimp only
      rw [related.length_eq]
  · exact ⟨.error (congrArg ProgramFault.config hfault), rfl⟩

/-- Two runs ask for the same but for the token, with the same filter of the log. -/
theorem understand_alike {s t : Surroundings} (h : s.Alike t) :
    ExceptRel Eq (fun x y => Invocation.Alike x.1 y.1 ∧ x.2 = y.2) (understand s)
      (understand t) := by
  have hparse := Invocation.parse_alike h.environment h.words h.help
  have hfilter : s.environment LogFilter.envName = t.environment LogFilter.envName :=
    h.environment.same _ (by decide)
  simp only [understand, hfilter]
  refine (hparse.mapError fun f g h => congrArg ProgramFault.usage h).bind fun i j hij => ?_
  have hsame : i.outlined.logLevel = j.outlined.logLevel := congrArg Invocation.logLevel hij
  have hlevel : i.logLevel = j.logLevel := hsame
  rw [hlevel]
  cases LogFilter.choose (t.environment LogFilter.envName) j.logLevel with
  | error fault => exact .error rfl
  | ok filter => exact .ok ⟨hij, rfl⟩

/-- Two runs show the same levels of the log. -/
theorem shownLevel_alike {s t : Surroundings} (h : s.Alike t) : shownLevel s = shownLevel t := by
  have hunderstand := understand_alike h
  simp only [shownLevel]
  revert hunderstand
  generalize understand s = x
  generalize understand t = y
  rintro (⟨-, hfilter⟩ | rfl)
  · exact congrArg LogFilter.shows hfilter
  · rfl

/-- What two runs are going to do differs in nothing but secrets. -/
theorem prepare_alike {s t : Surroundings} (h : s.Alike t) (limits : Limits) :
    OutcomeAlike Alike (prepare s limits) (prepare t limits) := by
  have hunderstand := understand_alike h
  simp only [prepare]
  revert hunderstand
  generalize understand s = x
  generalize understand t = y
  -- the level of the log has been read by now, and the commands are of one kind
  rintro (@⟨⟨⟨_, command⟩, _⟩, ⟨⟨_, command'⟩, _⟩, hcommand, -⟩ | rfl)
  · have hcommand : command.outlined = command'.outlined := congrArg Invocation.command hcommand
    cases command with
    | ssh a =>
      cases command' with
      | ssh b =>
        rw [h.system]
        exact ofArguments_alike t.system limits (ProgramCommand.ssh.inj hcommand)
      | forward path => cases hcommand
    | forward path =>
      cases command' with
      | ssh b => cases hcommand
      | forward path' =>
        obtain rfl := ProgramCommand.forward.inj hcommand
        exact ofConfig_alike h limits path
  · exact ⟨.error rfl, rfl⟩

end Launch

namespace Program

/-- Two runs begin with the same records, as programs with one outline. -/
theorem start_alike (d : Dialer) {s t : Surroundings} (h : s.Alike t) :
    (start d s).1.outlined = (start d t).1.outlined ∧ (start d s).2 = (start d t).2 := by
  have hprepare := Launch.prepare_alike h d.limits
  simp only [start]
  revert hprepare
  generalize Launch.prepare s d.limits = x
  generalize Launch.prepare t d.limits = y
  obtain ⟨x, records⟩ := x
  obtain ⟨y, records'⟩ := y
  rintro ⟨houtcome, rfl⟩
  cases houtcome with
  | error related => exact ⟨congrArg Program.failed related, rfl⟩
  | @ok l m related =>
    have related : l.outlined = m.outlined := related
    cases l with
    | tunnel o deadline =>
      cases m with
      | listeners gs => cases related
      | tunnel o' deadline' =>
        obtain ⟨hoptions, rfl⟩ := Launch.tunnel.inj related
        have hstart : ((TunnelProcess.start d o deadline).1.outlined,
              (TunnelProcess.start d o deadline).2)
            = ((TunnelProcess.start d o' deadline).1.outlined,
              (TunnelProcess.start d o' deadline).2) := by
          rw [← TunnelProcess.start_outlined, ← TunnelProcess.start_outlined, hoptions]
        obtain ⟨hprocess, hshown⟩ := Prod.mk.inj hstart
        exact ⟨congrArg Program.tunnel hprocess, congrArg (records ++ ·.2) hshown⟩
    | listeners fs =>
      cases m with
      | tunnel o deadline => cases related
      | listeners gs =>
        have hstart : ((ListenerProcess.start d fs).1.outlined, (ListenerProcess.start d fs).2)
            = ((ListenerProcess.start d gs).1.outlined, (ListenerProcess.start d gs).2) := by
          rw [← ListenerProcess.start_outlined, ← ListenerProcess.start_outlined,
            Launch.listeners.inj related]
        obtain ⟨hprocess, hshown⟩ := Prod.mk.inj hstart
        exact ⟨congrArg Program.listening hprocess, congrArg (records ++ ·) hshown⟩

/-! ### Secrecy -/

/-- Two programs end the same way: with the same code, and with the same report unless both have a
fault of the text of a configuration, in reports that differ in the places that they name. -/
structure SameEnd (p q : Program) : Prop where
  /-- The codes are the same. -/
  code : p.exit?.map (·.code) = q.exit?.map (·.code)
  /-- The reports are the same, or differ in such places. -/
  report : p.exit? = q.exit? ∨
    ∃ a b, p = .failed (.config (.malformed a)) ∧ q = .failed (.config (.malformed b)) ∧ a.Alike b

/-- Two steps carry the same bytes and report the same, their requests differ in nothing but the
secrets under the names for tokens, and the programs end the same way, if they do. -/
structure SameStep (x y : Program × ProgramOutput) : Prop where
  /-- The same bytes are carried on all sides. -/
  traffic : x.2.traffic = y.2.traffic
  /-- The same is reported. -/
  logs : x.2.logs = y.2.logs
  /-- The requests differ in nothing but tokens. -/
  request : Option.Rel SentRequest.Alike x.2.request y.2.request
  /-- The programs end the same way. -/
  ending : SameEnd x.1 y.1

theorem sameEnd_of_outlined {p q : Program} (h : p.outlined = q.outlined) : SameEnd p q := by
  have hsame (h : p.exit? = q.exit?) : SameEnd p q := ⟨congrArg (Option.map (·.code)) h, Or.inl h⟩
  cases p with
  | failed f =>
    cases q with
    | failed g =>
      obtain rfl | ⟨a, b, rfl, rfl, hab⟩ := ProgramFault.Alike.cases (Program.failed.inj h)
      · exact hsame rfl
      · exact ⟨rfl, Or.inr ⟨a, b, rfl, rfl, hab⟩⟩
    | _ => cases h
  | tunnel p =>
    cases q with
    | tunnel q =>
      refine hsame ?_
      show p.exit? = q.exit?
      rw [← p.exit?_outlined, ← q.exit?_outlined, Program.tunnel.inj h]
    | _ => cases h
  | listening p =>
    cases q with
    | listening q =>
      refine hsame ?_
      show p.exit? = q.exit?
      rw [← p.exit?_outlined, ← q.exit?_outlined, Program.listening.inj h]
    | _ => cases h

theorem sameStep_of_alike {x y : Program × ProgramOutput} (h : StepAlike x y) : SameStep x y := by
  obtain ⟨hprogram, houtput⟩ := h
  obtain ⟨htraffic, hrequest, hlogs⟩ := ProgramOutput.mk.inj houtput
  refine ⟨htraffic, hlogs, ?_, sameEnd_of_outlined hprogram⟩
  revert hrequest
  generalize x.2.request = r
  generalize y.2.request = q
  intro hrequest
  cases r <;> cases q
  · exact .none
  · cases hrequest
  · cases hrequest
  · exact .some (SentRequest.alike_of_outlined (Option.some.inj hrequest))

/-- Two runs of the program that differ in nothing but the service token show the same records and
the same levels of them, carry the same bytes and end the same way, whatever happens. Their requests
differ in nothing but the token, which is marked as a secret. -/
theorem token_secret (d : Dialer) {s t : Surroundings} (h : s.Alike t) (es : List ProgramEvent) :
    Launch.shownLevel s = Launch.shownLevel t ∧
      (start d s).2 = (start d t).2 ∧
      SameEnd (start d s).1 (start d t).1 ∧
      List.Forall₂ SameStep ((start d s).1.states es) ((start d t).1.states es) := by
  obtain ⟨hprogram, hrecords⟩ := start_alike d h
  exact ⟨Launch.shownLevel_alike h, hrecords, sameEnd_of_outlined hprogram,
    (states_alike hprogram es).imp fun _ _ => sameStep_of_alike⟩

/-! ### Runs with tokens -/

/-- A run with a command line, and with one text in all files. -/
def sampleRun (arguments : List String) (text : String) : Surroundings where
  arguments := arguments
  environment := fun _ => none
  files := fun _ => .ok (Utf8.encode text.toList)
  system := System.free

/-- A command line with a token, half of it attached to its option. -/
def tokenWords (id secret : String) : List String :=
  ["ssh", "--hostname", "http://a.example", "--" ++ "service-token-id" ++ "=" ++ id,
    "--" ++ "service-token-secret", secret]

/-- A command line with a configuration file. -/
def fileWords : List String := ["forward", "--config", "forwarders.yml"]

/-- A configuration with an identity, and with a list where a text should be. -/
def faultyEntry (id : String) : String :=
  "forwarders: [\x7bservice_token_id: " ++ id ++ ", url: []\x7d]"

/-- The tree of such a configuration, in which the key after the identity is at a column. -/
def faultyTree (id : String) (column : Nat) : Yaml.Node :=
  .mapping {} none
    [(.scalar {} none none "forwarders" .plain,
      .sequence ⟨12, 0, 12⟩ none
        [.mapping ⟨13, 0, 13⟩ none
          [(.scalar ⟨14, 0, 14⟩ none none "service_token_id" .plain,
              .scalar ⟨32, 0, 32⟩ none none id .plain),
            (.scalar ⟨column, 0, column⟩ none none "url" .plain,
              .sequence ⟨column + 5, 0, column + 5⟩ none [])]])]

theorem sampleEnvironment_alike (arguments : List String) (text : String) :
    (sampleRun arguments text).environment.Alike (sampleRun arguments text).environment :=
  ⟨fun _ _ => rfl, fun _ _ => .none⟩

/-- Two command lines with tokens of letters. -/
theorem tokenWords_alike : (sampleRun (tokenWords "abc" "def") "").Alike
    (sampleRun (tokenWords "x" "open-sesame") "") where
  words := by
    have hword {w : String} {ws ws' : List String} (hw : w ≠ "--") (h : WordsAlike ws ws') :
        WordsAlike (w :: ws) (w :: ws') :=
      .word (fun h => absurd h hw) h
    refine hword (by decide) (hword (by decide) (hword (by decide) ?_))
    refine .attached (by decide) (by decide +kernel) (by decide +kernel) ?_
    exact .apart (by decide) (by decide +kernel) (by decide +kernel) (by decide +kernel)
      (by decide +kernel) .nil
  help := by
    rintro ⟨s, rest, hscan⟩
    have hssh : Invocation.program.scan {} (tokenWords "abc" "def")
        = .ok ({}, some ("ssh", (tokenWords "abc" "def").tail)) := rfl
    rw [show (sampleRun (tokenWords "abc" "def") "").arguments = tokenWords "abc" "def" from rfl,
      hssh] at hscan
    simp at hscan
  shown := fun _ => rfl
  environment := sampleEnvironment_alike [] ""
  files := fun _ => .same _
  system := rfl

/-- Two configurations with tokens of letters. -/
theorem faultyEntry_alike : (sampleRun fileWords (faultyEntry "t")).Alike
    (sampleRun fileWords (faultyEntry "tok")) where
  words := .refl _
  help := fun _ => rfl
  shown := fun _ => rfl
  environment := sampleEnvironment_alike [] ""
  files := by
    intro path
    have hfree {t : String} (htext : ServiceToken.IsText t) (hliteral : '$' ∉ t.toList) :
        ServiceToken.IsFree t :=
      ⟨htext, Expansion.isLiteral_of_not_mem hliteral⟩
    have hhides {t : String} (h : ServiceToken.IsFree t) (hnull : Yaml.isNull t = false) :
        (tokenVeil fun _ => False).Hides none t .plain :=
      ⟨h, fun _ _ => ⟨by simpa using h.text.nonempty, hnull⟩, fun _ => nofun⟩
    have htree : Yaml.Node.Alike (tokenVeil fun _ => False) (faultyTree "t" 35)
        (faultyTree "tok" 37) := by
      refine .mapping (.shown .scalar (.sequence (.cons (.mapping ?_) .nil)) .nil)
      refine .hidden .scalar ⟨_, _, _, _, _, rfl, by decide⟩ (.scalar ?_ ?_)
        (.shown .scalar (.sequence .nil) .nil)
      · exact hhides (hfree (by decide +kernel) (by decide)) (by decide)
      · exact hhides (hfree (by decide +kernel) (by decide)) (by decide)
    have hdocuments : (Yaml.Document.ofText (String.ofList (faultyEntry "t").toList)).Alike
        (tokenVeil fun _ => False)
        (Yaml.Document.ofText (String.ofList (faultyEntry "tok").toList)) := by
      have hleft : Yaml.Document.ofText (String.ofList (faultyEntry "t").toList)
          = ⟨faultyTree "t" 35, none, false, 12⟩ := rfl
      have hright : Yaml.Document.ofText (String.ofList (faultyEntry "tok").toList)
          = ⟨faultyTree "tok" 37, none, false, 12⟩ := rfl
      rw [hleft, hright]
      exact ⟨htree, fun _ => .none, rfl, rfl, rfl⟩
    exact .documents rfl rfl hdocuments
  system := rfl

/-- The dial of a run, to an origin that takes the connection and does not answer. -/
def silentDial : ProgramEvent :=
  .tunnel (.dial (UpgradeRequest.known "dGhlIHNhbXBsZSBub25jZQ==" (by decide +kernel))
    ⟨fun _ => .now (.ok ()), fun _ => .now (.ok ()), [], .silence⟩)

/-- Two tokens on a command line, whose requests are sent and not answered; and two tokens in a
configuration that is refused. -/
theorem token_secret_sample :
    (sampleRun (tokenWords "abc" "def") "").Alike (sampleRun (tokenWords "x" "open-sesame") "") ∧
      List.Forall₂ SameStep
        ((start {} (sampleRun (tokenWords "abc" "def") "")).1.states [silentDial])
        ((start {} (sampleRun (tokenWords "x" "open-sesame") "")).1.states [silentDial]) ∧
      SameEnd (start {} (sampleRun fileWords (faultyEntry "t"))).1
        (start {} (sampleRun fileWords (faultyEntry "tok"))).1 :=
  ⟨tokenWords_alike, (token_secret {} tokenWords_alike [silentDial]).2.2.2,
    (token_secret {} faultyEntry_alike []).2.2.1⟩

/-- The report of a fault does depend on the token: by its length, where it is in the same line of a
configuration; by its text, where the configuration says that it is null; and by its first letter,
where it is a word of a command line that looks like an option. -/
theorem token_reported :
    ((sampleRun fileWords (faultyEntry "t")).Alike (sampleRun fileWords (faultyEntry "tok")) ∧
      (start {} (sampleRun fileWords (faultyEntry "t"))).1.exit?
        ≠ (start {} (sampleRun fileWords (faultyEntry "tok"))).1.exit?) ∧
    (start {} (sampleRun fileWords (faultyEntry "!!null \\"))).1.exit?
      ≠ (start {} (sampleRun fileWords (faultyEntry "!!null \\\\"))).1.exit? ∧
    (start {} (sampleRun (tokenWords "abc" "-t") "")).1.exit?
      ≠ (start {} (sampleRun (tokenWords "abc" "-u") "")).1.exit? := by
  refine ⟨⟨faultyEntry_alike, ?_⟩, ?_, ?_⟩
  · decide +kernel
  · decide +kernel
  · decide +kernel

end Program

end Carrier
