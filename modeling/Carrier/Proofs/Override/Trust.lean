import Carrier.Dial.Plan
import Carrier.Proofs.Override.Reading
import Carrier.Proofs.Url.WebSocket

/-!
# What an override asks of TLS

A server is trusted without proof only where the text that names the place to connect to presents a
name, and then one warning says so. Any other server proves the host that is dialed.

- `DialOptions.tlsTerms_checked`: without terms of its own a session checks the dialed host.
- `Override.Announced`: options of which no laxity is accidental, nor silent.
- `DialOptions.resolve_announced`: such are those that come of a text and options without terms.
-/

namespace Carrier

namespace DialOptions

/-! ### Terms of TLS -/

/-- What is asked of TLS when a name is to be proved. -/
def termsFor (name : String) (verified : Bool) : Except DialError (Option TlsTerms) :=
  if ServerName.isName name then .ok (some ⟨name, verified⟩)
  else .error (.tls "Invalid server name: invalid dns name")

theorem tlsTerms_of_serverName {o : DialOptions} {url : Url} {name : String}
    (hscheme : url.scheme = "wss") (hname : o.serverName = .ok name) :
    o.tlsTerms url = termsFor name (!o.tls.any (·.skipVerify)) := by
  unfold tlsTerms termsFor
  rw [if_neg (by simp [hscheme]), hname]

/-- An origin over HTTPS is dialed over TLS. -/
theorem webSocketUrl_scheme {o : DialOptions} {text : String} {url : Url}
    (horigin : o.origin = "https://" ++ text) (h : o.webSocketUrl = .ok url) :
    url.scheme = "wss" := by
  obtain ⟨-, u, carrier, hparse, hcarried, rfl⟩ := webSocketUrl_eq_ok_iff.mp h
  rw [horigin, Url.parse_https] at hparse
  rw [(Url.parseHierarchical_eq_ok hparse).1] at hcarried
  exact hcarried.of_https

/-- Without terms of its own a session has the host of its origin proved. -/
theorem serverName_of_tls_eq_none {o : DialOptions} {url : Url} (htls : o.tls = none)
    (h : o.webSocketUrl = .ok url) :
    ∃ u a, Url.parse o.origin = .ok u ∧ u.authority = some a ∧
      url.authority.map (·.host) = some a.host ∧ o.serverName = .ok a.host.bare := by
  obtain ⟨-, u, carrier, hparse, hcarried, rfl⟩ := webSocketUrl_eq_ok_iff.mp h
  obtain ⟨a, s, hauthority, hhost⟩ := Url.parse_network_host hparse hcarried.network.1
  have hshown : ({ u with scheme := carrier } : Url).hostText?.getD "" = a.host.shown := by
    simp [Url.hostText?, hauthority, Host.parse_ne_empty hhost]
  refine ⟨u, a, hparse, hauthority, by rw [hauthority]; rfl, ?_⟩
  unfold serverName
  rw [htls, h]
  show Except.ok (unbracketed (({ u with scheme := carrier } : Url).hostText?.getD "")) = _
  rw [hshown, Host.unbracketed_shown hhost]

/-- The certificate is checked against the host of the origin, which is the host that is dialed. -/
structure Checked (o : DialOptions) : Prop where
  /-- No terms say that any certificate is accepted. -/
  strict : o.tls.any (·.skipVerify) = false
  /-- Over TLS the server proves the host of the origin. -/
  proves : ∀ url, o.webSocketUrl = .ok url → url.scheme = "wss" →
    ∃ u a, Url.parse o.origin = .ok u ∧ u.authority = some a ∧
      url.authority.map (·.host) = some a.host ∧ o.serverName = .ok a.host.bare ∧
      o.tlsTerms url = termsFor a.host.bare true

/-- Without terms of its own a session checks the host that it dials. -/
theorem checked_of_tls_eq_none {o : DialOptions} (htls : o.tls = none) : o.Checked := by
  have hstrict : o.tls.any (·.skipVerify) = false := by rw [htls]; rfl
  refine ⟨hstrict, ?_⟩
  intro url hurl hscheme
  obtain ⟨u, a, hparse, hauthority, hsame, hname⟩ := serverName_of_tls_eq_none htls hurl
  refine ⟨u, a, hparse, hauthority, hsame, hname, ?_⟩
  rw [tlsTerms_of_serverName hscheme hname, hstrict]
  rfl

end DialOptions

namespace Override

/-! ### Overrides -/

/-- Only an override that presents a name brings terms of TLS. -/
theorem tls_eq_some {o : Override} {tls : TlsOverride} :
    o.tls = some tls ↔ ∃ name port host named,
      o = .presenting name port host named ∧ tls = ⟨name, true⟩ := by
  cases o with
  | «at» host => simp [Override.tls]
  | atPort host port => simp [Override.tls]
  | presenting name port host named =>
    constructor
    · intro h
      exact ⟨name, port, host, named, rfl, (Option.some.inj h).symm⟩
    · rintro ⟨name', port', host', named', ho, rfl⟩
      cases ho
      rfl

/-- The texts with three fields are those that bring terms of TLS. -/
theorem tls_isSome_iff {raw : String} {o : Override} (hparse : parse raw = .ok o) :
    o.tls.isSome ↔ ∃ name port host, Presents raw name port host := by
  constructor
  · intro h
    obtain ⟨tls, htls⟩ := Option.isSome_iff_exists.mp h
    obtain ⟨name, port, host, named, rfl, -⟩ := tls_eq_some.mp htls
    exact ⟨name, port, host, (parse_eq_presenting named).mp hparse⟩
  · rintro ⟨name, port, host, hpresents⟩
    have hsame := hparse.symm.trans hpresents.parse
    cases hsame
    rfl

/-- What an override leaves and what it changes. -/
theorem apply_eq (o : Override) (options : DialOptions) :
    o.apply options =
      ({ options with origin := o.origin, tls := o.tls.or options.tls },
        o.tls.toList.map fun tls => warning tls.serverName o.origin) := by
  unfold apply
  cases o.tls <;> rfl

end Override

/-- An empty text changes nothing; any other stands for an override, which is applied. -/
theorem DialOptions.resolve_eq_ok {raw : String} {base options : DialOptions}
    {records : List LogRecord} :
    base.resolve raw = .ok (options, records) ↔
      (raw = "" ∧ options = base ∧ records = []) ∨
        ∃ o, Override.parse raw = .ok o ∧ o.apply base = (options, records) := by
  unfold resolve
  by_cases hraw : raw = ""
  · subst hraw
    constructor
    · intro h
      cases h
      exact .inl ⟨rfl, rfl, rfl⟩
    · rintro (⟨-, rfl, rfl⟩ | ⟨o, hparse, -⟩)
      · rfl
      · cases hparse
  · have hempty : raw.isEmpty = false := by simpa using hraw
    rw [hempty]
    constructor
    · intro h
      cases hparse : Override.parse raw with
      | error fault =>
        rw [hparse] at h
        cases h
      | ok o =>
        rw [hparse] at h
        exact .inr ⟨o, rfl, Except.ok.inj h⟩
    · rintro (⟨hnil, -⟩ | ⟨o, hparse, happly⟩)
      · exact absurd hnil hraw
      · rw [hparse, ← happly]
        rfl

/-! ### No laxity by accident -/

/-- Options, and what was reported when they were made of the text that names the place to connect
to: a server is trusted without proof only where the text presents a name, and then a warning says
so. -/
structure Override.Announced (raw : String) (options : DialOptions) (records : List LogRecord) :
    Prop where
  /-- The certificate is not checked exactly where a name is presented. -/
  lax_iff : options.tls.any (·.skipVerify) = true ↔ ∃ name port host, Presents raw name port host
  /-- A name that is presented is the one that is asked for, and one warning names it and the
  origin. -/
  presented : ∀ name port host, Presents raw name port host →
    options.origin = "https://" ++ host ++ ":" ++ port ∧
      options.serverName = .ok name ∧
      records = [warning name options.origin] ∧
      ∀ url, options.webSocketUrl = .ok url →
        url.scheme = "wss" ∧ options.tlsTerms url = DialOptions.termsFor name false
  /-- Where no name is presented there is no warning, and the host of the origin is proved. -/
  usual : (∀ name port host, ¬ Presents raw name port host) → records = [] ∧ options.Checked

namespace Override

/-- A text that presents a name. -/
theorem Announced.of_presents {raw name port host : String} {options : DialOptions}
    {records : List LogRecord} (h : Presents raw name port host)
    (horigin : options.origin = "https://" ++ host ++ ":" ++ port)
    (htls : options.tls = some ⟨name, true⟩) (hrecords : records = [warning name options.origin]) :
    Announced raw options records := by
  have hlax : options.tls.any (·.skipVerify) = true := by rw [htls]; rfl
  have hname : options.serverName = .ok name := by
    unfold DialOptions.serverName
    rw [htls]
  refine ⟨⟨fun _ => ⟨name, port, host, h⟩, fun _ => hlax⟩, ?_, ?_⟩
  · intro name' port' host' h'
    -- a text is read in one way, so that these are the same three fields
    have hsame := h.parse.symm.trans h'.parse
    cases hsame
    refine ⟨horigin, hname, hrecords, ?_⟩
    intro url hurl
    have hhttps : options.origin = "https://" ++ (host ++ ":" ++ port) := by
      rw [horigin, String.append_assoc, String.append_assoc, String.append_assoc]
    have hscheme := DialOptions.webSocketUrl_scheme hhttps hurl
    refine ⟨hscheme, ?_⟩
    rw [DialOptions.tlsTerms_of_serverName hscheme hname, hlax]
    rfl
  · intro hnone
    exact absurd h (hnone name port host)

/-- A text that presents no name, where the options have no terms of their own. -/
theorem Announced.of_tls_eq_none {raw : String} {options : DialOptions}
    (hnone : ∀ name port host, ¬ Presents raw name port host) (htls : options.tls = none) :
    Announced raw options [] := by
  have hchecked := DialOptions.checked_of_tls_eq_none htls
  constructor
  · constructor
    · intro hlax
      rw [hchecked.strict] at hlax
      cases hlax
    · rintro ⟨name, port, host, h⟩
      exact absurd h (hnone name port host)
  · intro name port host h
    exact absurd h (hnone name port host)
  · intro _
    exact ⟨rfl, hchecked⟩

end Override

/-- What comes of a text, and of options without terms of their own, is lax only where the text asks
for it. -/
theorem DialOptions.resolve_announced {raw : String} {base options : DialOptions}
    {records : List LogRecord} (hbase : base.tls = none)
    (h : base.resolve raw = .ok (options, records)) :
    Override.Announced raw options records := by
  rcases resolve_eq_ok.mp h with ⟨rfl, rfl, rfl⟩ | ⟨o, hparse, happly⟩
  · refine Override.Announced.of_tls_eq_none ?_ hbase
    intro name port host hpresents
    cases hpresents.parse
  · rw [Override.apply_eq, hbase, Option.or_none] at happly
    cases htls : o.tls with
    | none =>
      have hnot : ∀ name port host, ¬ Override.Presents raw name port host := by
        intro name port host hpresents
        have hsome := (Override.tls_isSome_iff hparse).mpr ⟨name, port, host, hpresents⟩
        rw [htls] at hsome
        cases hsome
      rw [htls] at happly
      cases happly
      exact Override.Announced.of_tls_eq_none hnot rfl
    | some tls =>
      obtain ⟨name, port, host, named, rfl, rfl⟩ := Override.tls_eq_some.mp htls
      have hpresents := (Override.parse_eq_presenting named).mp hparse
      cases happly
      exact Override.Announced.of_presents hpresents rfl rfl rfl

end Carrier
