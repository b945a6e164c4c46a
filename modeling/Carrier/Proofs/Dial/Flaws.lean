import Carrier.Proofs.Dial.Stages
import Carrier.TunnelError

/-!
# Options that no origin can help

Some options fail in every dial, whatever origin and network do: they have no URL, ask a server to
prove what is no name, or make no request that can be sent. Flaws in front of the request are told
apart from what another attempt may mend. A request that cannot be made is not: it fails like an
upgrade that was not granted.

- `DialOptions.Flawed`: what can be wrong with options, and the cause of every dial's failure.
- `DialOptions.Doomed`: options that fail for one cause, with any origin that is willing.
- `DialOptions.Flawed.doomed`, `DialOptions.Doomed.flawed`: these are the options that have a flaw.
- `DialOptions.Flawed.dial_error`: where a dial with a flaw ends, whatever the origin does.
- `DialOptions.flawed_retryable`: which flaws are taken for something that may pass.
-/

namespace Carrier

namespace DialOptions

/-- What can be wrong with options, and why every dial with them fails. -/
inductive Flawed (o : DialOptions) : DialError → Prop where
  /-- There is no URL to dial. -/
  | invalid {cause : SetupError} (refused : o.validate = .error cause) : Flawed o (.setup cause)
  /-- The server is asked to prove what is no name. -/
  | nameless {url : Url} {name : String} (dialed : o.webSocketUrl = .ok url)
    (secured : url.scheme = "wss") (asked : o.serverName = .ok name)
    (noName : ServerName.isName name = false) :
    Flawed o (.tls "Invalid server name: invalid dns name")
  /-- The URL or the host to present makes no request. -/
  | unbuilt {url : Url} {terms : Option TlsTerms} {key : HeaderValue} {cause : DialError}
    (dialed : o.webSocketUrl = .ok url) (agreed : o.tlsTerms url = .ok terms)
    (refused : UpgradeRequest.build url o key = .error cause) : Flawed o cause
  /-- There is a request, but one of its headers cannot be sent. -/
  | unsendable {url : Url} {terms : Option TlsTerms} {key : HeaderValue} {request : UpgradeRequest}
    (dialed : o.webSocketUrl = .ok url) (agreed : o.tlsTerms url = .ok terms)
    (visible : key.isVisible = true) (built : UpgradeRequest.build url o key = .ok request)
    (stuck : request.sent? = none) : Flawed o (.handshake UpgradeFault.unsendable.message)

/-- Every dial fails for one cause, if the origin takes the connection and agrees on TLS. -/
def Doomed (o : DialOptions) (cause : DialError) : Prop :=
  ∀ (d : Dialer) (key : HeaderValue) (origin : Origin), key.isVisible = true → origin.Willing →
    d.dial o key origin = .error cause

variable {o : DialOptions} {url : Url} {cause : DialError}

/-! ### Flaws of the request -/

/-- What is wrong with a URL or a host to present is wrong with every key. -/
theorem build_error_key {key : HeaderValue} (h : UpgradeRequest.build url o key = .error cause)
    (other : HeaderValue) : UpgradeRequest.build url o other = .error cause := by
  rcases UpgradeRequest.build_shape url o with ⟨reason, hfault⟩ | ⟨target, host, hmade⟩
  · have hkey := hfault o.headers key
    have hother := hfault o.headers other
    rw [hother, ← hkey]
    exact h
  · obtain ⟨r, hbuilt, -⟩ := hmade o.headers key
    rw [hbuilt] at h
    cases h

/-- A request fails at its making, or at its sending. -/
theorem request_eq_error {key : HeaderValue} :
    o.request url key = .error cause ↔
      UpgradeRequest.build url o key = .error cause ∨
        ∃ r, UpgradeRequest.build url o key = .ok r ∧ r.sent? = none ∧
          cause = .handshake UpgradeFault.unsendable.message := by
  cases hbuild : UpgradeRequest.build url o key with
  | error fault =>
    have hrequest : o.request url key = .error fault := by
      unfold request
      rw [hbuild]
      rfl
    simp [hrequest]
  | ok r =>
    cases hsent : r.sent? with
    | none => simp [request_of_stuck hbuild hsent, hsent, eq_comm (a := cause)]
    | some lines => simp [request_of_sent hbuild hsent, hsent]

/-- The failure of a request is that of an upgrade, and the same for all keys that can be sent. -/
theorem request_error_key {key : HeaderValue} (hkey : key.isVisible = true)
    (h : o.request url key = .error cause) :
    (∃ reason, cause = .handshake reason) ∧
      ∀ other : HeaderValue, other.isVisible = true → o.request url other = .error cause := by
  rcases o.request_shape url with ⟨reason, hfault⟩ | ⟨target, host, hmade⟩
  · have hcause := (hfault o.headers key).2.symm.trans h
    cases hcause
    exact ⟨⟨reason, rfl⟩, fun other _ => (hfault o.headers other).2⟩
  · have hrequest := (hmade o.headers key).symm.trans h
    by_cases hall : (SentRequest.composed target host key o.headers).headers.all (·.2.isVisible)
    · rw [if_pos hall] at hrequest
      cases hrequest
    · rw [if_neg hall] at hrequest
      cases hrequest
      refine ⟨⟨_, rfl⟩, fun other hother => (hmade o.headers other).trans (if_neg ?_)⟩
      rw [SentRequest.composed_visible] at hall ⊢
      rintro ⟨hhost, -, hfurther⟩
      exact hall ⟨hhost, hkey, hfurther⟩

/-! ### Where a dial with a flaw ends -/

/-- With options that have a URL, the flaws are those of the terms of TLS and of the request. -/
theorem flawed_iff (hurl : o.webSocketUrl = .ok url) {key : HeaderValue}
    (hkey : key.isVisible = true) :
    o.Flawed cause ↔ o.tlsTerms url = .error cause ∨
      (∃ terms, o.tlsTerms url = .ok terms) ∧ o.request url key = .error cause := by
  constructor
  · intro h
    cases h with
    | invalid hrefused =>
      rw [validate_eq_error.mp hrefused] at hurl
      cases hurl
    | nameless hdialed hsecured hasked hnoName =>
      cases hdialed.symm.trans hurl
      exact .inl ((tlsTerms_eq_error_iff hurl url).mpr ⟨hsecured, ⟨_, hasked, hnoName⟩, rfl⟩)
    | unbuilt hdialed hagreed hrefused =>
      cases hdialed.symm.trans hurl
      exact .inr ⟨⟨_, hagreed⟩, request_eq_error.mpr (.inl (build_error_key hrefused key))⟩
    | unsendable hdialed hagreed hvisible hbuilt hstuck =>
      cases hdialed.symm.trans hurl
      have hrequest := request_eq_error.mpr (.inr ⟨_, hbuilt, hstuck, rfl⟩)
      exact .inr ⟨⟨_, hagreed⟩, (request_error_key hvisible hrequest).2 key hkey⟩
  · rintro (hterms | ⟨⟨terms, hterms⟩, hrequest⟩)
    · obtain ⟨hsecured, ⟨name, hasked, hnoName⟩, rfl⟩ := (tlsTerms_eq_error_iff hurl url).mp hterms
      exact .nameless hurl hsecured hasked hnoName
    · rcases request_eq_error.mp hrequest with hrefused | ⟨r, hbuilt, hstuck, rfl⟩
      · exact .unbuilt hurl hterms hrefused
      · exact .unsendable hurl hterms hkey hbuilt hstuck

/-- Options with a flaw have no URL, or one. -/
theorem Flawed.invalid_or_dialed (h : o.Flawed cause) :
    (∃ fault, o.validate = .error fault ∧ cause = .setup fault) ∨
      ∃ url, o.webSocketUrl = .ok url := by
  cases h with
  | invalid hrefused => exact .inl ⟨_, hrefused, rfl⟩
  | nameless hdialed => exact .inr ⟨_, hdialed⟩
  | unbuilt hdialed => exact .inr ⟨_, hdialed⟩
  | unsendable hdialed => exact .inr ⟨_, hdialed⟩

/-- Every dial fails with the flaw, unless origin or network are in its way before. -/
theorem Flawed.dial_error (h : o.Flawed cause) (d : Dialer) {key : HeaderValue}
    (hkey : key.isVisible = true) (origin : Origin) :
    ∃ fault, d.dial o key origin = .error fault ∧
      (fault = cause ∨ origin.Hinders fault ∨ fault = .timeout o.origin d.timeout) := by
  rcases h.invalid_or_dialed with ⟨fault, hrefused, rfl⟩ | ⟨url, hurl⟩
  · exact ⟨_, (Dialer.dial_invalid d hrefused key origin).1, .inl rfl⟩
  · have hvalid := validate_eq_ok.mpr ⟨url, hurl⟩
    have hflaw := (flawed_iff hurl hkey).mp h
    -- the stages end with a cause of the three kinds, or not in time
    have hfails {wait : Duration} {fault : DialError}
        (hattempt : Dialer.attempt o key origin = .after wait (.error fault))
        (hfault : fault = cause ∨ origin.Hinders fault) :
        ∃ fault, d.dial o key origin = .error fault ∧
          (fault = cause ∨ origin.Hinders fault ∨ fault = .timeout o.origin d.timeout) := by
      rcases Dialer.dial_of_failure hvalid hattempt with hdial | hdial
      · exact ⟨fault, hdial, hfault.imp_right .inl⟩
      · exact ⟨_, hdial, .inr (.inr rfl)⟩
    rcases Dialer.reach_cases hurl origin with hreach | ⟨wait, fault, hreach, hfault⟩ |
      ⟨wait, terms, hreach, hterms⟩
    · have hattempt : Dialer.attempt o key origin = .never := by
        rw [Dialer.attempt_eq, hreach]
        rfl
      exact ⟨_, Dialer.dial_of_never hvalid hattempt, .inr (.inr rfl)⟩
    · have hattempt : Dialer.attempt o key origin = .after wait (.error fault) := by
        rw [Dialer.attempt_eq, hreach]
        rfl
      refine hfails hattempt ?_
      rcases hfault with hhinders | hterms
      · exact .inr hhinders
      · rcases hflaw with hsame | ⟨⟨terms, hagreed⟩, -⟩
        · rw [hterms] at hsame
          cases hsame
          exact .inl rfl
        · rw [hterms] at hagreed
          cases hagreed
    · rcases hflaw with hrefused | ⟨-, hrequest⟩
      · rw [hterms] at hrefused
        cases hrefused
      · have hattempt : Dialer.attempt o key origin = .after (wait + ⟨0⟩) (.error cause) := by
          rw [Dialer.attempt_eq, hreach, Timed.after_andThen, hrequest]
          rfl
        exact hfails hattempt (.inl rfl)

/-- With an origin that is willing every dial fails with the flaw. -/
theorem Flawed.doomed (h : o.Flawed cause) : o.Doomed cause := by
  intro d key origin hkey hwilling
  rcases h.invalid_or_dialed with ⟨fault, hrefused, rfl⟩ | ⟨url, hurl⟩
  · exact (Dialer.dial_invalid d hrefused key origin).1
  · have htime : (⟨0⟩ : Duration) ≤ d.timeout := Nat.zero_le _
    refine Dialer.dial_of_attempt (validate_eq_ok.mpr ⟨url, hurl⟩) ?_ htime
    rw [Dialer.attempt_eq, Dialer.reach_willing hurl hwilling]
    rcases (flawed_iff hurl hkey).mp h with hterms | ⟨⟨terms, hterms⟩, hrequest⟩
    · rw [hterms]
      rfl
    · rw [hterms]
      show (Timed.now (.ok url)).andThen _ = _
      rw [Timed.now_andThen, hrequest]
      rfl

/-! ### Flaws and nothing else -/

end DialOptions

/-- An origin that takes every connection, agrees on all terms, and answers nothing. -/
def Origin.mute (last : AnswerEnd) : Origin :=
  { connect := fun _ => .now (.ok ()), agree := fun _ => .now (.ok ()), writes := [], last := last }

theorem Origin.mute_willing (last : AnswerEnd) : (mute last).Willing :=
  ⟨fun _ => rfl, fun _ => rfl⟩

namespace DialOptions

variable {o : DialOptions} {url : Url} {cause : DialError}

theorem Doomed.unique {other : DialError} (h : o.Doomed cause) (hother : o.Doomed other) :
    cause = other := by
  have hwilling := Origin.mute_willing .silence
  have hdial := h {} .sampleKey _ HeaderValue.sampleKey_visible hwilling
  rw [hother {} .sampleKey _ HeaderValue.sampleKey_visible hwilling] at hdial
  exact (Except.error.inj hdial).symm

/-- Options that make a request fail in two ways with origins that answer nothing. -/
theorem not_doomed_of_request {terms : Option TlsTerms} {request : SentRequest}
    (hurl : o.webSocketUrl = .ok url) (hterms : o.tlsTerms url = .ok terms)
    (hrequest : o.request url .sampleKey = .ok request) : ¬ o.Doomed cause := by
  intro h
  have hvalid := validate_eq_ok.mpr ⟨url, hurl⟩
  have hreach (last : AnswerEnd) : Dialer.reach o (.mute last) = .now (.ok url) := by
    rw [Dialer.reach_willing hurl (Origin.mute_willing last), hterms]
    rfl
  have hsilence : ({} : Dialer).dial o .sampleKey (.mute .silence) =
      .error (.timeout o.origin (Duration.seconds 30)) := by
    refine Dialer.dial_of_never hvalid ?_
    rw [Dialer.attempt_eq, hreach, Timed.now_andThen, hrequest]
    rfl
  have hclose : ({} : Dialer).dial o .sampleKey (.mute (.close ⟨0⟩)) =
      .error UpgradeFault.unfinished.dialError :=
    Dialer.dial_of_answered (hreach _) hrequest rfl (Nat.zero_le _)
  rw [h {} _ _ HeaderValue.sampleKey_visible (Origin.mute_willing _)] at hsilence hclose
  cases hsilence
  cases hclose

/-- What every willing origin fails with is a flaw. -/
theorem Doomed.flawed (h : o.Doomed cause) : o.Flawed cause := by
  have hsame {fault : DialError} (hfault : o.Flawed fault) : o.Flawed cause := by
    rw [h.unique hfault.doomed]
    exact hfault
  cases hvalid : o.validate with
  | error fault => exact hsame (.invalid hvalid)
  | ok _ =>
    obtain ⟨url, hurl⟩ := validate_eq_ok.mp hvalid
    have hkey := HeaderValue.sampleKey_visible
    cases hterms : o.tlsTerms url with
    | error fault => exact hsame ((flawed_iff hurl hkey).mpr (.inl hterms))
    | ok terms =>
      cases hrequest : o.request url .sampleKey with
      | error fault => exact hsame ((flawed_iff hurl hkey).mpr (.inr ⟨⟨terms, hterms⟩, hrequest⟩))
      | ok request => exact absurd h (not_doomed_of_request hurl hterms hrequest)

/-- A flaw is taken for something that may pass exactly where the request is at fault. -/
theorem Flawed.retryable_iff (h : o.Flawed cause) :
    cause.retryable = true ↔ ∃ url key, o.webSocketUrl = .ok url ∧ key.isVisible = true ∧
      o.request url key = .error cause := by
  constructor
  · intro hretryable
    rcases h.invalid_or_dialed with ⟨fault, -, rfl⟩ | ⟨url, hurl⟩
    · cases hretryable
    · rcases (flawed_iff hurl HeaderValue.sampleKey_visible).mp h with hterms | ⟨-, hrequest⟩
      · obtain ⟨-, -, rfl⟩ := (tlsTerms_eq_error_iff hurl url).mp hterms
        cases hretryable
      · exact ⟨url, .sampleKey, hurl, HeaderValue.sampleKey_visible, hrequest⟩
  · rintro ⟨url, key, -, hkey, hrequest⟩
    obtain ⟨⟨reason, rfl⟩, -⟩ := request_error_key hkey hrequest
    rfl

/-- A name that no server has dooms every dial, which no other attempt mends. -/
example :
    let o : DialOptions := { origin := "https://10.0.0.5", tls := some ⟨"not a name", true⟩ }
    let cause : DialError := .tls "Invalid server name: invalid dns name"
    o.Doomed cause ∧ cause.retryable = false := by
  have hurl : ({ origin := "https://10.0.0.5", tls := some ⟨"not a name", true⟩ } :
      DialOptions).webSocketUrl = .ok ⟨"wss", some ⟨"", "", .ipv4 ⟨167772165, by decide⟩, none⟩,
        .segments [""], none, none⟩ := by rfl
  have hflaw := Flawed.nameless hurl rfl rfl (by decide +kernel)
  exact ⟨hflaw.doomed, rfl⟩

end DialOptions

end Carrier
