import Carrier.Dial.Run
import Carrier.Override
import Carrier.Proofs.Header.Outline

/-!
# Dialing without the service token

What a dial comes to does not depend on the secrets among its headers, as far as they do not keep
the request from being sent; the request itself carries them where the options have them.

- `DialOptions.outlined`, `SentRequest.outlined`: options and requests with their secrets outlined.
- `DialOptions.resolve_outlined`: an override of outlined options.
- `UpgradeRequest.build_outlined`, `DialOptions.request_outlined`: the request of outlined options.
- `Dialer.dial_outlined`, `Dialer.sent?_outlined`: a dial with outlined options, and the request
  that it sends.
- `SentRequest.alike_of_outlined`: where two requests may differ that have one outline.
-/

namespace Carrier

/-! ### The request -/

/-- Options with the secrets among their headers outlined. -/
def DialOptions.outlined (o : DialOptions) : DialOptions := { o with headers := o.headers.outlined }

namespace UpgradeRequest

/-- A request with the secrets among its headers outlined. -/
def outlined (r : UpgradeRequest) : UpgradeRequest := { r with headers := r.headers.outlined }

/-- The names that an upgrade needs carry no token. -/
theorem isToken_of_mandatory {name : HeaderName} (h : name ∈ HeaderName.mandatory) :
    name.isToken = false := by
  have hall : ∀ name ∈ HeaderName.mandatory, name.isToken = false := by decide +kernel
  exact hall name h

@[simp] theorem standardHeaders_outlined (host key : HeaderValue) :
    (standardHeaders host key).outlined = standardHeaders host key := by
  have hplain : ∀ e ∈ (standardHeaders host key).entries, e.1 ∈ HeaderName.mandatory := by
    simp [standardHeaders, HeaderName.mandatory]
  have hsame : ∀ e ∈ (standardHeaders host key).entries, HeaderMap.outlinedEntry e = e :=
    fun e he => HeaderMap.outlinedEntry_of_other (isToken_of_mandatory (hplain e he))
  rw [HeaderMap.outlined, List.map_congr_left hsame, List.map_id']

theorem presentHost_outlined (headers : HeaderMap) (host : Option String) :
    presentHost headers.outlined host = (presentHost headers host).map HeaderMap.outlined := by
  cases host with
  | none => rfl
  | some host =>
    simp only [presentHost]
    split
    · rfl
    · cases hparse : HeaderValue.parse? host with
      | none => rfl
      | some value =>
        have hother : HeaderName.host.isToken = false := by decide +kernel
        show _ = Except.ok _
        rw [HeaderMap.replace_outlined, HeaderMap.outlinedEntry_of_other hother]

/-- The request of outlined options is the outline of their request. -/
theorem build_outlined (url : Url) (o : DialOptions) (key : HeaderValue) :
    build url o.outlined key = (build url o key).map outlined := by
  simp only [build]
  cases RequestTarget.parse url.href with
  | error fault => rfl
  | ok target =>
    simp only [pure_bind]
    cases HeaderValue.parse? target.hostText with
    | none => rfl
    | some host =>
      by_cases hempty : host.text.isEmpty
      · simp [hempty, throw, throwThe, MonadExceptOf.throw, bind, Except.bind, Except.map]
      · have hheaders : (standardHeaders host key).appendAll o.outlined.headers
            = ((standardHeaders host key).appendAll o.headers).outlined := by
          rw [HeaderMap.appendAll_outlined, standardHeaders_outlined]
          rfl
        simp only [hempty, hheaders]
        rw [show o.outlined.host = o.host from rfl, presentHost_outlined]
        cases presentHost ((standardHeaders host key).appendAll o.headers) o.host <;> rfl

/-- The headers of an outlined request are sent where those of the request are. -/
theorem sent?_outlined (r : UpgradeRequest) :
    r.outlined.sent? = r.sent?.map fun es => es.map HeaderMap.outlinedEntry := by
  -- the names that an upgrade needs come first, and carry no token; the others follow as they are
  have hfirst : (HeaderName.mandatory.flatMap fun name =>
        ((r.outlined.headers.valuesOf name).take 1).map (name, ·))
      = (HeaderName.mandatory.flatMap fun name =>
        ((r.headers.valuesOf name).take 1).map (name, ·)).map HeaderMap.outlinedEntry := by
    rw [List.map_flatMap]
    refine List.flatMap_congr fun name hname => ?_
    have hother := isToken_of_mandatory hname
    rw [show r.outlined.headers = r.headers.outlined from rfl,
      HeaderMap.valuesOf_outlined _ hother, List.map_map]
    exact List.map_congr_left fun value _ => (HeaderMap.outlinedEntry_of_other hother).symm
  have hothers := HeaderMap.filter_map_outlinedEntry
    (fun name => !HeaderName.mandatory.contains name) r.headers.entries
  simp only [sent?]
  rw [hfirst, show r.outlined.headers.entries = r.headers.entries.map HeaderMap.outlinedEntry
    from rfl, hothers, ← List.map_append, List.all_map]
  have hall (es : List (HeaderName × HeaderValue)) :
      es.all ((fun e => e.2.isVisible) ∘ HeaderMap.outlinedEntry)
        = es.all fun e => e.2.isVisible :=
    List.all_congr rfl fun e => HeaderMap.isVisible_outlinedEntry e
  rw [hall]
  split <;> rfl

theorem subprotocols?_outlined (r : UpgradeRequest) :
    r.outlined.subprotocols? = r.subprotocols? := by
  have hother : HeaderName.subprotocol.isToken = false := by decide +kernel
  simp only [subprotocols?]
  rw [show r.outlined.headers = r.headers.outlined from rfl, HeaderMap.valuesOf_outlined _ hother]

end UpgradeRequest

namespace SentRequest

/-- A request with the secrets among its headers outlined. -/
def outlined (r : SentRequest) : SentRequest :=
  { r with headers := r.headers.map HeaderMap.outlinedEntry }

/-- Two requests that differ in nothing but the secrets under the names for tokens. -/
structure Alike (r q : SentRequest) : Prop where
  /-- The targets are the same. -/
  target : r.target = q.target
  /-- The headers are the same but for such secrets. -/
  headers : List.Forall₂ HeaderMap.EntryAlike r.headers q.headers
  /-- The protocols above are the same. -/
  subprotocols : r.subprotocols = q.subprotocols
  /-- The answer to the challenge is the same. -/
  accept : r.accept = q.accept

theorem alike_of_outlined {r q : SentRequest} (h : r.outlined = q.outlined) : r.Alike q := by
  obtain ⟨htarget, hheaders, hsubprotocols, haccept⟩ := SentRequest.mk.inj h
  exact ⟨htarget, HeaderMap.entriesAlike_of_outlined hheaders, hsubprotocols, haccept⟩

end SentRequest

namespace DialOptions

theorem webSocketUrl_outlined (o : DialOptions) : o.outlined.webSocketUrl = o.webSocketUrl := rfl

theorem looksUp_outlined (o : DialOptions) : o.outlined.looksUp = o.looksUp := rfl

theorem validate_outlined (o : DialOptions) : o.outlined.validate = o.validate := rfl

theorem tlsTerms_outlined (o : DialOptions) (url : Url) :
    o.outlined.tlsTerms url = o.tlsTerms url := rfl

/-- An override leaves the headers alone. -/
theorem resolve_outlined (raw : String) (o : DialOptions) :
    resolve raw o.outlined = (resolve raw o).map (Prod.map outlined id) := by
  simp only [resolve]
  split
  · rfl
  · cases Override.parse raw with
    | error cause => rfl
    | ok place =>
      simp only [Except.map, Override.apply]
      cases place.tls <;> rfl

/-- The request of outlined options, as it is sent, is the outline of theirs. -/
theorem request_outlined (o : DialOptions) (url : Url) (key : HeaderValue) :
    o.outlined.request url key = (o.request url key).map SentRequest.outlined := by
  simp only [request]
  rw [UpgradeRequest.build_outlined]
  cases UpgradeRequest.build url o key with
  | error cause => rfl
  | ok request =>
    have hkey : request.outlined.headers.valuesOf .webSocketKey
        = request.headers.valuesOf .webSocketKey :=
      HeaderMap.valuesOf_outlined _ (by decide +kernel)
    simp only [Except.map, bind, Except.bind]
    rw [UpgradeRequest.sent?_outlined, UpgradeRequest.subprotocols?_outlined, hkey]
    cases request.sent? <;> rfl

end DialOptions

/-! ### The dial -/

namespace Timed

/-- What a result is made into, when it comes. -/
def map {α β : Type} (f : α → β) : Timed α → Timed β
  | .never => .never
  | .after wait x => .after wait (f x)

variable {ε α β γ : Type}

theorem within_map (f : α → β) (limit : Duration) (x : Timed α) :
    (x.map f).within limit = (x.within limit).map f := by
  cases x with
  | never => rfl
  | after wait result =>
    simp only [map, within]
    split <;> rfl

theorem map_later (f : α → β) (wait : Duration) (x : Timed α) :
    (x.later wait).map f = (x.map f).later wait := by
  cases x <;> rfl

/-- What follows a success, and what its success is made into. -/
theorem map_andThen (f : β → γ) (x : Timed (Except ε α)) (next : α → Timed (Except ε β)) :
    (x.andThen next).map (Except.map f) = x.andThen fun a => (next a).map (Except.map f) := by
  cases x with
  | never => rfl
  | after wait result =>
    cases result with
    | error e => rfl
    | ok a => exact map_later _ wait (next a)

/-- What follows what a success is made into. -/
theorem andThen_map (f : α → β) (x : Timed (Except ε α)) (next : β → Timed (Except ε γ)) :
    (x.map (Except.map f)).andThen next = x.andThen fun a => next (f a) := by
  cases x with
  | never => rfl
  | after wait result => cases result <;> rfl

end Timed

/-- What a dial has come to, with the secrets in the request outlined. -/
def Established.outlined (e : Established) : Established := { e with request := e.request.outlined }

namespace Dialer

theorem approach_outlined (o : DialOptions) (key : HeaderValue) (origin : Origin) :
    approach o.outlined key origin =
      (approach o key origin).map (Except.map fun (url, request) => (url, request.outlined)) := by
  simp only [approach, DialOptions.webSocketUrl_outlined, DialOptions.tlsTerms_outlined,
    DialOptions.request_outlined]
  cases o.webSocketUrl with
  | error cause => rfl
  | ok url =>
    simp only [Timed.map_andThen]
    cases o.request url key <;> rfl

/-- The answer is judged by what a request has in common with its outline. -/
theorem upgrade_outlined (origin : Origin) (url : Url) (request : SentRequest) :
    upgrade origin url request.outlined =
      (upgrade origin url request).map (Except.map Established.outlined) := by
  simp only [upgrade, Timed.map_andThen]
  congr 1
  funext answer
  rw [show request.outlined.accept = request.accept from rfl,
    show request.outlined.subprotocols = request.subprotocols from rfl]
  cases answer.1.judge request.accept request.subprotocols <;> rfl

theorem attempt_outlined (o : DialOptions) (key : HeaderValue) (origin : Origin) :
    attempt o.outlined key origin =
      (attempt o key origin).map (Except.map Established.outlined) := by
  simp only [attempt, approach_outlined, Timed.andThen_map, upgrade_outlined, Timed.map_andThen]

/-- A dial with outlined options comes to the same, but for the secrets in the request. -/
theorem dial_outlined (d : Dialer) (o : DialOptions) (key : HeaderValue) (origin : Origin) :
    d.dial o.outlined key origin = (d.dial o key origin).map Established.outlined := by
  simp only [dial, DialOptions.validate_outlined, attempt_outlined, Timed.within_map]
  cases o.validate with
  | error cause => rfl
  | ok _ => cases (attempt o key origin).within d.timeout <;> rfl

theorem inTime_outlined (d : Dialer) (o : DialOptions) (key : HeaderValue) (origin : Origin) :
    d.inTime o.outlined key origin = d.inTime o key origin := by
  simp only [inTime, attempt_outlined, Timed.within_map, Option.isSome_map]

/-- The request that a dial with outlined options sends is the outline of the one it would send. -/
theorem sent?_outlined (d : Dialer) (o : DialOptions) (key : HeaderValue) (origin : Origin) :
    d.sent? o.outlined key origin = (d.sent? o key origin).map SentRequest.outlined := by
  simp only [sent?, approach_outlined, Timed.within_map]
  cases (approach o key origin).within d.timeout with
  | none => rfl
  | some result => cases result <;> rfl

end Dialer

end Carrier
