import Carrier.Dial.Run
import Carrier.Proofs.Dial.Request
import Carrier.Proofs.Override.Destination

/-!
# Mistakes in the setup, and dials

Options are looked at before anything is dialed. Those that can be dialed name a host and imply a
port, and no stage of a dial finds a mistake in them any more.

- `DialOptions.webSocketUrl_place`: what the URL of options that can be dialed leads to.
- `FailsOnly`, `Timed.FailsOnly`: what the failures of a result have in common.
- `Dialer.attempt_fault`: no stage of a dial of such options finds a mistake in them.
- `Dialer.dial_invalid`, `Dialer.dial_valid`: dials with both kinds of options.
-/

namespace Carrier

/-! ### What failures have in common -/

section Failures

variable {ε α β : Type} {P : ε → Prop}

/-- Whatever a result fails with has a property. -/
def FailsOnly (P : ε → Prop) (x : Except ε α) : Prop := ∀ e, x = .error e → P e

theorem FailsOnly.ok (a : α) : FailsOnly P (.ok a : Except ε α) := nofun

theorem FailsOnly.error {e : ε} (h : P e) : FailsOnly P (.error e : Except ε α) := by
  rintro e' ⟨⟩
  exact h

theorem FailsOnly.map {x : Except ε α} (h : FailsOnly P x) (f : α → β) :
    FailsOnly P (x.map f) := by
  cases x with
  | error e => exact .error (h e rfl)
  | ok a => exact .ok (f a)

namespace Timed

/-- Whatever a result that takes time fails with has a property. -/
def FailsOnly (P : ε → Prop) (x : Timed (Except ε α)) : Prop :=
  ∀ wait result, x = .after wait result → Carrier.FailsOnly P result

theorem FailsOnly.now {x : Except ε α} (h : Carrier.FailsOnly P x) : (Timed.now x).FailsOnly P := by
  rintro wait result ⟨⟩
  exact h

theorem FailsOnly.later {x : Timed (Except ε α)} (h : x.FailsOnly P) (wait : Duration) :
    (x.later wait).FailsOnly P := by
  cases x with
  | never => nofun
  | after more result =>
    rintro wait' result' ⟨⟩
    exact h more result rfl

theorem FailsOnly.andThen {x : Timed (Except ε α)} (h : x.FailsOnly P)
    {next : α → Timed (Except ε β)} (hnext : ∀ a, (next a).FailsOnly P) :
    (x.andThen next).FailsOnly P := by
  cases x with
  | never => nofun
  | after wait result =>
    cases result with
    | error e =>
      rintro wait' result' ⟨⟩
      exact .error (h wait _ rfl e rfl)
    | ok a => exact (hnext a).later wait

theorem FailsOnly.within {x : Timed (Except ε α)} (h : x.FailsOnly P) {limit : Duration}
    {result : Except ε α} (hresult : x.within limit = some result) :
    Carrier.FailsOnly P result := by
  cases x with
  | never => cases hresult
  | after wait y =>
    unfold Timed.within at hresult
    dsimp only at hresult
    split at hresult
    · cases hresult
      exact h wait _ rfl
    · cases hresult

end Timed

end Failures

/-- A cause that no change of the options would mend. -/
def DialError.NotSetup (e : DialError) : Prop := e.isSetup = false

/-! ### Where URLs that are dialed lead -/

namespace DialOptions

/-- The URL of options that can be dialed leads to a host that has a name, and to a port. -/
theorem webSocketUrl_place {o : DialOptions} {url : Url} (h : o.webSocketUrl = .ok url) :
    ∃ place, address url = .ok place ∧ place.host ≠ "" := by
  obtain ⟨-, u, carrier, hparse, hcarried, rfl⟩ := webSocketUrl_eq_ok_iff.mp h
  obtain ⟨a, s, hauthority, hhost⟩ := Url.parse_network_host hparse hcarried.network.1
  have hport : ∃ port, ({ u with scheme := carrier } : Url).effectivePort? = some port := by
    unfold Url.effectivePort?
    cases u.authority.bind (·.port) with
    | some port => exact ⟨port, rfl⟩
    | none =>
      obtain ⟨port, -, hport⟩ := hcarried.port
      exact ⟨port, hport⟩
  obtain ⟨port, hport⟩ := hport
  refine ⟨⟨Url.dialHost { u with scheme := carrier }, port⟩, ?_, ?_⟩
  · unfold address
    rw [hport]
  · -- the host is that of the origin, which has one
    show Url.dialHost { u with scheme := carrier } ≠ ""
    unfold Url.dialHost
    rw [hauthority]
    exact Host.dialed_ne_empty (Host.parse_ne_empty hhost)

/-- The name to be proved is found where there is a URL. -/
theorem serverName_valid {o : DialOptions} {url : Url} (h : o.webSocketUrl = .ok url) :
    ∃ name, o.serverName = .ok name := by
  unfold serverName
  cases o.tls with
  | some tls => exact ⟨_, rfl⟩
  | none => exact ⟨_, by rw [h]; rfl⟩

/-- Terms of TLS cannot be had where the server is asked to prove what is no name. -/
theorem tlsTerms_eq_error_iff {o : DialOptions} {url : Url} (h : o.webSocketUrl = .ok url)
    (target : Url) {cause : DialError} :
    o.tlsTerms target = .error cause ↔
      target.scheme = "wss" ∧ (∃ name, o.serverName = .ok name ∧ ServerName.isName name = false) ∧
        cause = .tls "Invalid server name: invalid dns name" := by
  obtain ⟨name, hname⟩ := serverName_valid h
  unfold tlsTerms
  rw [hname]
  by_cases hscheme : target.scheme = "wss"
  · cases hvalid : ServerName.isName name with
    | true => simp [hscheme, hvalid]
    | false => simp [hscheme, hvalid, eq_comm (a := cause)]
  · simp [hscheme]

/-- Terms of TLS fail for another reason than the options. -/
theorem tlsTerms_fault {o : DialOptions} {url : Url} (h : o.webSocketUrl = .ok url)
    (target : Url) : FailsOnly DialError.NotSetup (o.tlsTerms target) := by
  intro cause hcause
  obtain ⟨-, -, rfl⟩ := (tlsTerms_eq_error_iff h target).mp hcause
  rfl

end DialOptions

/-! ### The request -/

theorem DialOptions.request_fault (o : DialOptions) (url : Url) (key : HeaderValue) :
    FailsOnly DialError.NotSetup (o.request url key) := by
  rcases o.request_shape url with ⟨reason, hfault⟩ | ⟨target, host, hmade⟩
  · rw [(hfault o.headers key).2]
    exact .error rfl
  · rw [hmade o.headers key]
    split
    · exact .ok _
    · exact .error rfl

theorem UpgradeFault.dialError_notSetup (fault : UpgradeFault) : fault.dialError.NotSetup := by
  cases fault <;> rfl

/-! ### The dial -/

namespace Dialer

/-- A stage fails with a cause of its own. -/
theorem stage_fault {ε α : Type} (cause : ε → DialError) (h : ∀ e, (cause e).NotSetup)
    (x : Timed (Except ε α)) : (stage cause x).FailsOnly DialError.NotSetup := by
  cases x with
  | never => nofun
  | after wait result =>
    rintro wait' result' ⟨⟩
    cases result with
    | error e => exact .error (h e)
    | ok a => exact .ok a

/-- The stages in front of the upgrade, once the URL has been found. -/
theorem approach_fault {o : DialOptions} {url : Url} (hurl : o.webSocketUrl = .ok url)
    (key : HeaderValue) (origin : Origin) :
    (approach o key origin).FailsOnly DialError.NotSetup := by
  -- the two stages that could find a mistake have what they look for
  obtain ⟨place, hplace, -⟩ := DialOptions.webSocketUrl_place hurl
  unfold approach
  rw [hurl]
  dsimp only
  rw [hplace]
  have hconnect (a : DialAddress) :
      (stage (.connect a.shown) (origin.connect a)).FailsOnly DialError.NotSetup :=
    stage_fault (.connect a.shown) (fun _ => rfl) _
  refine (Timed.FailsOnly.now (.ok place)).andThen fun a => (hconnect a).andThen fun _ => ?_
  refine (Timed.FailsOnly.now (DialOptions.tlsTerms_fault hurl url)).andThen fun terms => ?_
  refine Timed.FailsOnly.andThen ?_ fun _ => ?_
  · cases terms with
    | none => exact .now (.ok ())
    | some terms =>
      refine stage_fault _ ?_ _
      exact fun _ => rfl
  · exact .now ((DialOptions.request_fault o url key).map _)

theorem upgrade_fault (origin : Origin) (url : Url) (request : SentRequest) :
    (upgrade origin url request).FailsOnly DialError.NotSetup := by
  unfold upgrade
  refine (stage_fault _ UpgradeFault.dialError_notSetup _).andThen fun (answer, early) => ?_
  dsimp only
  cases answer.judge request.accept request.subprotocols with
  | error fault => exact .now (.error fault.dialError_notSetup)
  | ok _ => exact .now (.ok _)

/-- No stage of a dial finds a mistake in options that have a URL. -/
theorem attempt_fault {o : DialOptions} {url : Url} (hurl : o.webSocketUrl = .ok url)
    (key : HeaderValue) (origin : Origin) :
    (attempt o key origin).FailsOnly DialError.NotSetup :=
  (approach_fault hurl key origin).andThen fun (url, request) => upgrade_fault origin url request

/-- Options that cannot be dialed are refused by every dial, and no request is sent. -/
theorem dial_invalid (d : Dialer) {o : DialOptions} {cause : SetupError}
    (h : o.validate = .error cause) (key : HeaderValue) (origin : Origin) :
    d.dial o key origin = .error (.setup cause) ∧ d.sent? o key origin = none := by
  constructor
  · unfold dial
    rw [h]
  · unfold sent? approach
    rw [DialOptions.validate_eq_error.mp h]
    dsimp only [Timed.now, Timed.within]
    split
    · rename_i hsent
      split at hsent <;> cases hsent
    · rfl

/-- No dial finds a mistake in options that can be dialed. -/
theorem dial_valid (d : Dialer) {o : DialOptions} (h : o.validate = .ok ()) (key : HeaderValue)
    (origin : Origin) : FailsOnly DialError.NotSetup (d.dial o key origin) := by
  obtain ⟨url, hurl⟩ := DialOptions.validate_eq_ok.mp h
  unfold dial
  rw [h]
  dsimp only
  cases hwithin : (attempt o key origin).within d.timeout with
  | none => exact .error rfl
  | some result => exact (attempt_fault hurl key origin).within hwithin

end Dialer

end Carrier
