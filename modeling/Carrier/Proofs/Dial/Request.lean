import Carrier.Dial.Plan

/-!
# What a request is made of

A request is made of a URL, a host to present, a key and headers. Whether there is one is settled by
the first two: they give a fault, or a target and a host, whatever the key and the headers are. The
headers that every upgrade needs come first in it, each with one value. The configured ones follow,
except those under the same names, which are not sent.

- `HeaderMap.further`: the headers that follow those that every upgrade needs.
- `SentRequest.composed`: the request for a target that presents a host.
- `UpgradeRequest.build_shape`: what a URL and a host to present amount to.
- `DialOptions.request_shape`, `DialOptions.request_eq_ok`: the same of the request that is sent.
-/

namespace Carrier

/-- The headers that are sent beside those that every upgrade needs. -/
def HeaderMap.further (m : HeaderMap) : List (HeaderName × HeaderValue) :=
  m.entries.filter fun e => !HeaderName.mandatory.contains e.1

/-- A key that can be sent. -/
def HeaderValue.sampleKey : HeaderValue :=
  UpgradeRequest.known "AAAAAAAAAAAAAAAAAAAAAA==" (by decide +kernel)

theorem HeaderValue.sampleKey_visible : HeaderValue.sampleKey.isVisible = true := by decide +kernel

/-- The request for a target that presents a host and carries further headers. -/
def SentRequest.composed (target : RequestTarget) (host key : HeaderValue) (m : HeaderMap) :
    SentRequest :=
  ⟨target, (UpgradeRequest.standardHeaders host key).entries ++ m.further,
    UpgradeRequest.subprotocols? ⟨target, m⟩, acceptText key.text⟩

namespace UpgradeRequest

/-- The first value under each name that an upgrade needs. -/
def needed (m : HeaderMap) : List (HeaderName × HeaderValue) :=
  HeaderName.mandatory.flatMap fun name => ((m.valuesOf name).take 1).map (name, ·)

/-! ### The headers of a request -/

section Headers

variable (host key : HeaderValue) (m : HeaderMap)

theorem needed_standard : needed ((standardHeaders host key).appendAll m) =
    (standardHeaders host key).entries := by
  simp only [needed, HeaderMap.valuesOf_appendAll]
  rfl

theorem further_standard : ((standardHeaders host key).appendAll m).further = m.further := by
  have hnone : (standardHeaders host key).further = [] := rfl
  unfold HeaderMap.further at hnone ⊢
  rw [HeaderMap.appendAll, List.filter_append, hnone, List.nil_append]

/-- The host to present takes the place of the one in the URL. -/
theorem needed_replace (presented : HeaderValue) :
    needed (((standardHeaders host key).appendAll m).replace .host presented) =
      (standardHeaders presented key).entries := by
  simp only [needed, HeaderMap.valuesOf_replace, HeaderMap.valuesOf_appendAll]
  rfl

theorem further_replace (presented : HeaderValue) :
    (m.replace .host presented).further = m.further := by
  have hhost : HeaderName.mandatory.contains HeaderName.host = true := by decide
  unfold HeaderMap.further HeaderMap.replace
  rw [List.filter_append, List.filter_filter]
  have hlast : [(HeaderName.host, presented)].filter
      (fun e => !HeaderName.mandatory.contains e.1) = [] := by
    rw [List.filter_cons, hhost]
    rfl
  rw [hlast, List.append_nil]
  refine List.filter_congr fun e _ => ?_
  by_cases he : e.1 = HeaderName.host
  · rw [he, hhost]
    rfl
  · simp [he]

end Headers

/-- A request for a target that presents a host and has further headers. -/
structure Composed (r : UpgradeRequest) (target : RequestTarget) (host key : HeaderValue)
    (m : HeaderMap) : Prop where
  /-- The target is asked for. -/
  target : r.target = target
  /-- The headers that every upgrade needs have one value. -/
  needed : needed r.headers = (standardHeaders host key).entries
  /-- The others are those that are configured. -/
  further : r.headers.further = m.further
  /-- The key is the challenge. -/
  challenge : (r.headers.valuesOf .webSocketKey).head? = some key
  /-- The protocols above are those that are configured. -/
  asked : r.headers.valuesOf .subprotocol = m.valuesOf .subprotocol

theorem composed_standard (target : RequestTarget) (host key : HeaderValue) (m : HeaderMap) :
    Composed ⟨target, (standardHeaders host key).appendAll m⟩ target host key m where
  target := rfl
  needed := needed_standard host key m
  further := further_standard host key m
  challenge := by
    rw [HeaderMap.valuesOf_appendAll]
    rfl
  asked := by
    rw [HeaderMap.valuesOf_appendAll]
    rfl

theorem composed_replace (target : RequestTarget) (host key presented : HeaderValue)
    (m : HeaderMap) :
    Composed ⟨target, ((standardHeaders host key).appendAll m).replace .host presented⟩
      target presented key m where
  target := rfl
  needed := needed_replace host key m presented
  further := by
    rw [further_replace, further_standard]
  challenge := by
    rw [HeaderMap.valuesOf_replace, if_neg (by decide), HeaderMap.valuesOf_appendAll]
    rfl
  asked := by
    rw [HeaderMap.valuesOf_replace, if_neg (by decide), HeaderMap.valuesOf_appendAll]
    rfl

section Composed

variable {r : UpgradeRequest} {target : RequestTarget} {host key : HeaderValue} {m : HeaderMap}

/-- All headers are sent, or none. -/
theorem Composed.sent?_eq (h : r.Composed target host key m) :
    r.sent? = if (SentRequest.composed target host key m).headers.all (·.2.isVisible) then
      some (SentRequest.composed target host key m).headers else none := by
  have hall : UpgradeRequest.needed r.headers ++ r.headers.further =
      (SentRequest.composed target host key m).headers := by
    rw [h.needed, h.further]
    rfl
  rw [← hall]
  rfl

theorem Composed.subprotocols?_eq (h : r.Composed target host key m) :
    r.subprotocols? = (SentRequest.composed target host key m).subprotocols := by
  unfold SentRequest.composed UpgradeRequest.subprotocols?
  rw [h.asked]

end Composed

/-! ### What comes of a URL and a host to present -/

/-- A host to present is a fault, or none, or takes the place of all hosts. -/
theorem presentHost_shape (presented : Option String) :
    (∃ reason, ∀ m, presentHost m presented = .error (.handshake reason)) ∨
      (∀ m, presentHost m presented = .ok m) ∨
      ∃ value, ∀ m, presentHost m presented = .ok (m.replace .host value) := by
  cases presented with
  | none => exact .inr (.inl fun _ => rfl)
  | some text =>
    unfold presentHost
    dsimp only
    by_cases hempty : text.isEmpty
    · exact .inr (.inl fun m => if_pos hempty)
    · simp only [if_neg hempty]
      cases HeaderValue.parse? text with
      | none => exact .inl ⟨_, fun _ => rfl⟩
      | some value => exact .inr (.inr ⟨value, fun _ => rfl⟩)

/-- A URL and a host to present have a fault, or make a request with any headers and any key. -/
theorem build_shape (url : Url) (o : DialOptions) :
    (∃ reason, ∀ m key, build url { o with headers := m } key = .error (.handshake reason)) ∨
      ∃ target host, ∀ m key, ∃ r,
        build url { o with headers := m } key = .ok r ∧ r.Composed target host key m := by
  unfold build
  cases RequestTarget.parse url.href with
  | error fault => exact .inl ⟨_, fun _ _ => rfl⟩
  | ok target =>
    simp only [pure_bind]
    cases HeaderValue.parse? target.hostText with
    | none => exact .inl ⟨_, fun _ _ => rfl⟩
    | some host =>
      dsimp only
      by_cases hempty : host.text.isEmpty
      · refine .inl ⟨"Invalid upgrade request: URL error: Empty host name", fun m key => ?_⟩
        rw [if_pos hempty]
        rfl
      · simp only [if_neg hempty]
        -- from here on the key and the headers are in the request, but not in what may fail
        rcases presentHost_shape o.host with ⟨reason, hfault⟩ | hsame | ⟨value, hvalue⟩
        · refine .inl ⟨reason, fun m key => ?_⟩
          rw [hfault]
          rfl
        · refine .inr ⟨target, host, fun m key => ⟨_, ?_, composed_standard target host key m⟩⟩
          rw [hsame]
          rfl
        · refine .inr ⟨target, value, fun m key =>
            ⟨_, ?_, composed_replace target host key value m⟩⟩
          rw [hvalue]
          rfl

end UpgradeRequest

/-- What can keep a request from being sent. -/
theorem SentRequest.composed_visible (target : RequestTarget) (host key : HeaderValue)
    (m : HeaderMap) :
    (composed target host key m).headers.all (·.2.isVisible) = true ↔
      host.isVisible = true ∧ key.isVisible = true ∧ ∀ e ∈ m.further, e.2.isVisible = true := by
  have hupgrade : (UpgradeRequest.known "Upgrade" (by decide +kernel)).isVisible = true := by
    decide +kernel
  have hwebSocket : (UpgradeRequest.known "websocket" (by decide +kernel)).isVisible = true := by
    decide +kernel
  have hversion : (UpgradeRequest.known "13" (by decide +kernel)).isVisible = true := by
    decide +kernel
  simp [composed, UpgradeRequest.standardHeaders, hupgrade, hwebSocket, hversion]

namespace DialOptions

/-- A request with a header that cannot be sent is not sent. -/
theorem request_of_stuck {o : DialOptions} {url : Url} {key : HeaderValue} {r : UpgradeRequest}
    (hbuild : UpgradeRequest.build url o key = .ok r) (hstuck : r.sent? = none) :
    o.request url key = .error (.handshake UpgradeFault.unsendable.message) := by
  unfold request
  rw [hbuild]
  dsimp only [bind, Except.bind]
  rw [hstuck]
  rfl

/-- A request whose headers can be sent is sent with them. -/
theorem request_of_sent {o : DialOptions} {url : Url} {key : HeaderValue} {r : UpgradeRequest}
    {lines : List (HeaderName × HeaderValue)} (hbuild : UpgradeRequest.build url o key = .ok r)
    (hsent : r.sent? = some lines) :
    o.request url key = .ok ⟨r.target, lines, r.subprotocols?,
      acceptText ((r.headers.valuesOf .webSocketKey).head?.elim "" (·.text))⟩ := by
  unfold request
  rw [hbuild]
  dsimp only [bind, Except.bind]
  rw [hsent]
  rfl

/-- The request that is sent, if all its headers can be. -/
theorem request_of_composed {o : DialOptions} {url : Url} {r : UpgradeRequest}
    {target : RequestTarget} {host key : HeaderValue} {m : HeaderMap}
    (hbuild : UpgradeRequest.build url o key = .ok r) (hr : r.Composed target host key m) :
    o.request url key =
      if (SentRequest.composed target host key m).headers.all (·.2.isVisible) then
        .ok (.composed target host key m)
      else .error (.handshake UpgradeFault.unsendable.message) := by
  have hsent := hr.sent?_eq
  by_cases hall : (SentRequest.composed target host key m).headers.all (·.2.isVisible)
  · rw [if_pos hall] at hsent ⊢
    rw [request_of_sent hbuild hsent, hr.subprotocols?_eq, hr.challenge, hr.target]
    rfl
  · rw [if_neg hall] at hsent ⊢
    exact request_of_stuck hbuild hsent

/-- A URL and a host to present have a fault, or make a request with any headers and any key that
can be sent. -/
theorem request_shape (o : DialOptions) (url : Url) :
    (∃ reason, ∀ m key, UpgradeRequest.build url { o with headers := m } key =
        .error (.handshake reason) ∧
      ({ o with headers := m }).request url key = .error (.handshake reason)) ∨
      ∃ target host, ∀ m key, ({ o with headers := m }).request url key =
        if (SentRequest.composed target host key m).headers.all (·.2.isVisible) then
          .ok (.composed target host key m)
        else .error (.handshake UpgradeFault.unsendable.message) := by
  rcases UpgradeRequest.build_shape url o with ⟨reason, hfault⟩ | ⟨target, host, hmade⟩
  · refine .inl ⟨reason, fun m key => ⟨hfault m key, ?_⟩⟩
    unfold request
    rw [hfault]
    rfl
  · refine .inr ⟨target, host, fun m key => ?_⟩
    obtain ⟨r, hbuild, hr⟩ := hmade m key
    exact request_of_composed hbuild hr

/-- A request that is sent tells what requests with other headers and other keys are. -/
theorem request_eq_ok {o : DialOptions} {url : Url} {key : HeaderValue} {request : SentRequest}
    (h : o.request url key = .ok request) :
    ∃ target host, request = .composed target host key o.headers ∧
      request.headers.all (·.2.isVisible) = true ∧
      ∀ m other, ({ o with headers := m }).request url other =
        if (SentRequest.composed target host other m).headers.all (·.2.isVisible) then
          .ok (.composed target host other m)
        else .error (.handshake UpgradeFault.unsendable.message) := by
  rcases o.request_shape url with ⟨reason, hfault⟩ | ⟨target, host, hmade⟩
  · cases (hfault o.headers key).2.symm.trans h
  · have hrequest := (hmade o.headers key).symm.trans h
    by_cases hall : (SentRequest.composed target host key o.headers).headers.all (·.2.isVisible)
    · rw [if_pos hall] at hrequest
      cases hrequest
      exact ⟨target, host, rfl, hall, hmade⟩
    · rw [if_neg hall] at hrequest
      cases hrequest

end DialOptions

end Carrier
