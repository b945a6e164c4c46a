import Carrier.Proofs.Dial.Setup

/-!
# The stages of a dial

A dial takes the same stages for all headers until it has its request: a URL is found, the address
takes the connection, and TLS is agreed on. What follows is the request and what is answered to it.

- `Timed.andThen_eq_after_iff`, `Timed.andThen_assoc`: stages in a row.
- `Dialer.reach`: the stages in front of the request.
- `Dialer.attempt_eq`: the request and its answer follow them.
- `Origin.Hinders`, `Dialer.reach_cases`: how far a dial comes with the options that it has.
- `Origin.Willing`, `Dialer.reach_willing`: the same where nothing is in its way.
- `Dialer.upgrade_eq_ok`: what an upgrade that succeeds has been answered.
- `Dialer.dial_of_unasked`, `Dialer.dial_of_answered`: a dial that has come as far as its request.
- `Dialer.dial_eq_ok`: what a dial that succeeds has gone through.
-/

namespace Carrier

namespace Timed

variable {ε α β γ : Type}

theorem later_later (x : Timed α) (first second : Duration) :
    (x.later second).later first = x.later (first + second) := by
  cases x with
  | never => rfl
  | after wait a =>
    show Timed.after (first + (second + wait)) a = .after (first + second + wait) a
    rw [Duration.add_assoc]

theorem within_after (wait limit : Duration) (a : α) :
    (Timed.after wait a).within limit = if wait ≤ limit then some a else none := rfl

theorem later_zero (x : Timed α) : x.later ⟨0⟩ = x := by
  cases x with
  | never => rfl
  | after wait a =>
    show Timed.after (⟨0⟩ + wait) a = _
    rw [Duration.zero_add]

theorem now_andThen (a : α) (next : α → Timed (Except ε β)) :
    (Timed.now (.ok a)).andThen next = next a := later_zero (next a)

theorem after_andThen (wait : Duration) (a : α) (next : α → Timed (Except ε β)) :
    (Timed.after wait (.ok a)).andThen next = (next a).later wait := rfl

/-- A failure in a row ends it, and a success goes on. -/
theorem andThen_eq_after_iff {x : Timed (Except ε α)} {next : α → Timed (Except ε β)}
    {wait : Duration} {result : Except ε β} :
    x.andThen next = .after wait result ↔
      (∃ e, x = .after wait (.error e) ∧ result = .error e) ∨
        ∃ first a second, x = .after first (.ok a) ∧ next a = .after second result ∧
          wait = first + second := by
  constructor
  · intro h
    cases x with
    | never => cases h
    | after first found =>
      cases found with
      | error e =>
        cases h
        exact .inl ⟨e, rfl, rfl⟩
      | ok a =>
        rw [after_andThen] at h
        cases hnext : next a with
        | never =>
          rw [hnext] at h
          cases h
        | after second last =>
          rw [hnext] at h
          cases h
          exact .inr ⟨first, a, second, rfl, hnext, rfl⟩
  · rintro (⟨e, rfl, rfl⟩ | ⟨first, a, second, rfl, hnext, rfl⟩)
    · rfl
    · rw [after_andThen, hnext]
      rfl

/-- A success in a row is one of each stage, and takes as long as they do together. -/
theorem andThen_eq_ok {x : Timed (Except ε α)} {next : α → Timed (Except ε β)} {wait : Duration}
    {b : β} (h : x.andThen next = .after wait (.ok b)) :
    ∃ first a second, x = .after first (.ok a) ∧ next a = .after second (.ok b) ∧
      wait = first + second := by
  rcases andThen_eq_after_iff.mp h with ⟨e, -, he⟩ | hnext
  · cases he
  · exact hnext

/-- Stages in a row may be taken together. -/
theorem andThen_assoc (x : Timed (Except ε α)) (next : α → Timed (Except ε β))
    (last : β → Timed (Except ε γ)) :
    (x.andThen next).andThen last = x.andThen fun a => (next a).andThen last := by
  cases x with
  | never => rfl
  | after wait result =>
    cases result with
    | error e => rfl
    | ok a =>
      show ((next a).later wait).andThen last = ((next a).andThen last).later wait
      cases next a with
      | never => rfl
      | after more result =>
        cases result with
        | error e => rfl
        | ok b => exact (later_later (last b) wait more).symm

end Timed

namespace Dialer

/-- The stages in front of the request, and the URL that they lead to. -/
def reach (options : DialOptions) (origin : Origin) : Timed (Except DialError Url) :=
  match options.webSocketUrl with
  | .error cause => .now (.error (.setup cause))
  | .ok url =>
    Timed.now (DialOptions.address url) |>.andThen fun address =>
      stage (.connect address.shown) (origin.connect address) |>.andThen fun _ =>
        Timed.now (options.tlsTerms url) |>.andThen fun terms =>
          (secure origin terms).andThen fun _ => Timed.now (.ok url)

theorem approach_eq (o : DialOptions) (key : HeaderValue) (origin : Origin) :
    approach o key origin = (reach o origin).andThen fun url =>
      Timed.now ((o.request url key).map fun request => (url, request)) := by
  unfold approach reach
  cases o.webSocketUrl with
  | error cause => rfl
  | ok url => simp only [Timed.andThen_assoc, Timed.now_andThen]

/-- The request follows the stages in front of it, and the answer follows the request. -/
theorem attempt_eq (o : DialOptions) (key : HeaderValue) (origin : Origin) :
    attempt o key origin = (reach o origin).andThen fun url =>
      (Timed.now (o.request url key)).andThen fun request => upgrade origin url request := by
  unfold attempt
  rw [approach_eq, Timed.andThen_assoc]
  congr 1
  funext url
  cases o.request url key with
  | error cause => rfl
  | ok request => rfl

/-! ### As far as the request -/

end Dialer

/-- What origin and network do to keep a dial from its request. -/
inductive Origin.Hinders (origin : Origin) : DialError → Prop where
  /-- The address does not take the connection. -/
  | refused {address : DialAddress} {wait : Duration} {fault : IoFault}
    (answer : origin.connect address = .after wait (.error fault)) :
    Hinders origin (.connect address.shown fault)
  /-- TLS is not agreed on. -/
  | disagreed {terms : TlsTerms} {wait : Duration} {reason : String}
    (answer : origin.agree terms = .after wait (.error reason)) :
    Hinders origin (.tls ("TLS handshake failed: " ++ reason))

/-- An origin that takes every connection at once and agrees on all terms. -/
structure Origin.Willing (origin : Origin) : Prop where
  /-- Every address takes the connection. -/
  connects : ∀ address, origin.connect address = .now (.ok ())
  /-- All terms are agreed on. -/
  agrees : ∀ terms, origin.agree terms = .now (.ok ())

namespace Dialer

theorem secure_some (origin : Origin) (terms : TlsTerms) :
    secure origin (some terms) =
      stage (fun reason => .tls ("TLS handshake failed: " ++ reason)) (origin.agree terms) := rfl

theorem secure_cases (origin : Origin) (terms : Option TlsTerms) :
    secure origin terms = .never ∨
      (∃ wait cause, secure origin terms = .after wait (.error cause) ∧ origin.Hinders cause) ∨
      ∃ wait, secure origin terms = .after wait (.ok ()) := by
  cases terms with
  | none => exact .inr (.inr ⟨_, rfl⟩)
  | some terms =>
    rw [secure_some]
    cases hagree : origin.agree terms with
    | never => exact .inl rfl
    | after wait result =>
      cases result with
      | error reason => exact .inr (.inl ⟨wait, _, rfl, .disagreed hagree⟩)
      | ok _ => exact .inr (.inr ⟨wait, rfl⟩)

/-- How far a dial comes with options that can be dialed. -/
theorem reach_cases {o : DialOptions} {url : Url} (hurl : o.webSocketUrl = .ok url)
    (origin : Origin) :
    reach o origin = .never ∨
      (∃ wait cause, reach o origin = .after wait (.error cause) ∧
        (origin.Hinders cause ∨ o.tlsTerms url = .error cause)) ∨
      ∃ wait terms, reach o origin = .after wait (.ok url) ∧ o.tlsTerms url = .ok terms := by
  -- the URL has an address, so that the connection is the first stage that may fail
  obtain ⟨address, haddress, -⟩ := DialOptions.webSocketUrl_place hurl
  unfold reach
  rw [hurl]
  dsimp only
  rw [haddress, Timed.now_andThen]
  cases hconnect : origin.connect address with
  | never => exact .inl rfl
  | after wait result =>
    cases result with
    | error fault => exact .inr (.inl ⟨wait, _, rfl, .inl (.refused hconnect)⟩)
    | ok _ =>
      cases hterms : o.tlsTerms url with
      | error cause => exact .inr (.inl ⟨_, cause, rfl, .inr rfl⟩)
      | ok terms =>
        simp only [Timed.now_andThen]
        rcases secure_cases origin terms with hnever | ⟨more, cause, hcause, hhinders⟩ | ⟨more, hok⟩
        · rw [hnever]
          exact .inl rfl
        · rw [hcause]
          exact .inr (.inl ⟨_, cause, rfl, .inl hhinders⟩)
        · rw [hok]
          exact .inr (.inr ⟨_, terms, rfl, rfl⟩)

/-- A willing origin is reached at once, unless the terms of TLS cannot be had. -/
theorem reach_willing {o : DialOptions} {url : Url} (hurl : o.webSocketUrl = .ok url)
    {origin : Origin} (h : origin.Willing) :
    reach o origin = .now ((o.tlsTerms url).map fun _ => url) := by
  obtain ⟨address, haddress, -⟩ := DialOptions.webSocketUrl_place hurl
  have hconnect : stage (.connect address.shown) (origin.connect address) = .now (.ok ()) := by
    rw [h.connects]
    rfl
  unfold reach
  rw [hurl]
  dsimp only
  rw [haddress, Timed.now_andThen, hconnect, Timed.now_andThen]
  cases o.tlsTerms url with
  | error cause => rfl
  | ok terms =>
    rw [Timed.now_andThen]
    cases terms with
    | none => rfl
    | some terms =>
      rw [secure_some, h.agrees]
      rfl

/-! ### From the request on -/

section Reached

variable {d : Dialer} {o : DialOptions} {key : HeaderValue} {origin : Origin} {url : Url}
  {request : SentRequest} {wait more : Duration}

/-- What is reached is the URL of the options. -/
theorem reach_eq_ok (h : reach o origin = .after wait (.ok url)) : o.webSocketUrl = .ok url := by
  cases hurl : o.webSocketUrl with
  | error cause =>
    unfold reach at h
    rw [hurl] at h
    cases h
  | ok found =>
    rcases reach_cases hurl origin with hr | ⟨_, _, hr, -⟩ | ⟨_, _, hr, -⟩
    · rw [hr] at h
      cases h
    · rw [hr] at h
      cases h
    · rw [hr] at h
      cases h
      rfl

theorem validate_of_url (hurl : o.webSocketUrl = .ok url) : o.validate = .ok () :=
  DialOptions.validate_eq_ok.mpr ⟨url, hurl⟩

/-- An upgrade fails with what is wrong with its answer. -/
theorem upgrade_of_fault {answer : UpgradeAnswer} {early : Bytes} {fault : UpgradeFault}
    (hlisten : Arrival.listen {} origin.last origin.writes = .after more (.ok (answer, early)))
    (hfault : answer.fault? request.accept request.subprotocols = some fault) :
    upgrade origin url request = .after more (.error fault.dialError) := by
  unfold upgrade UpgradeAnswer.judge
  rw [hlisten]
  dsimp only [stage, Except.mapError, Timed.andThen]
  rw [hfault]
  rfl

/-- An upgrade whose answer has nothing wrong with it succeeds. -/
theorem upgrade_of_none {answer : UpgradeAnswer} {early : Bytes}
    (hlisten : Arrival.listen {} origin.last origin.writes = .after more (.ok (answer, early)))
    (hnone : answer.fault? request.accept request.subprotocols = none) :
    upgrade origin url request = .after more (.ok ⟨url, request, early⟩) := by
  unfold upgrade UpgradeAnswer.judge
  rw [hlisten]
  dsimp only [stage, Except.mapError, Timed.andThen]
  rw [hnone]
  rfl

/-- An upgrade that succeeds has an answer that is judged to be one. -/
theorem upgrade_eq_ok {w : Established} (h : upgrade origin url request = .after more (.ok w)) :
    ∃ answer early,
      Arrival.listen {} origin.last origin.writes = .after more (.ok (answer, early)) ∧
      answer.fault? request.accept request.subprotocols = none ∧ w = ⟨url, request, early⟩ := by
  cases hlisten : Arrival.listen {} origin.last origin.writes with
  | never =>
    unfold upgrade at h
    rw [hlisten] at h
    cases h
  | after wait result =>
    cases result with
    | error fault =>
      unfold upgrade at h
      rw [hlisten] at h
      cases h
    | ok found =>
      obtain ⟨answer, early⟩ := found
      cases hfault : answer.fault? request.accept request.subprotocols with
      | some fault =>
        rw [upgrade_of_fault hlisten hfault] at h
        cases h
      | none =>
        rw [upgrade_of_none hlisten hfault] at h
        cases h
        exact ⟨answer, early, rfl, hfault, rfl⟩

/-- A dial comes to what its stages come to in time. -/
theorem dial_eq_getD (hvalid : o.validate = .ok ()) :
    d.dial o key origin = ((attempt o key origin).within d.timeout).getD
      (.error (.timeout o.origin d.timeout)) := by
  unfold dial
  rw [hvalid]
  cases (attempt o key origin).within d.timeout <;> rfl

/-- A dial whose stages are over in time comes to what they come to. -/
theorem dial_of_attempt {result : Except DialError Established} (hvalid : o.validate = .ok ())
    (hattempt : attempt o key origin = .after wait result) (htime : wait ≤ d.timeout) :
    d.dial o key origin = result := by
  rw [dial_eq_getD hvalid, hattempt, Timed.within_after, if_pos htime]
  rfl

/-- A dial of which a stage fails fails for this reason, or takes too long. -/
theorem dial_of_failure {cause : DialError} (hvalid : o.validate = .ok ())
    (hattempt : attempt o key origin = .after wait (.error cause)) :
    d.dial o key origin = .error cause ∨
      d.dial o key origin = .error (.timeout o.origin d.timeout) := by
  by_cases htime : wait ≤ d.timeout
  · exact .inl (dial_of_attempt hvalid hattempt htime)
  · right
    rw [dial_eq_getD hvalid, hattempt, Timed.within_after, if_neg htime]
    rfl

/-- A dial whose stages never end takes too long. -/
theorem dial_of_never (hvalid : o.validate = .ok ()) (hattempt : attempt o key origin = .never) :
    d.dial o key origin = .error (.timeout o.origin d.timeout) := by
  rw [dial_eq_getD hvalid, hattempt]
  rfl

/-- A dial without a request fails for this reason. -/
theorem dial_of_unasked {cause : DialError} (hreach : reach o origin = .after wait (.ok url))
    (hrequest : o.request url key = .error cause) (htime : wait ≤ d.timeout) :
    d.dial o key origin = .error cause := by
  have hattempt : attempt o key origin = .after (wait + ⟨0⟩) (.error cause) := by
    rw [attempt_eq, hreach, Timed.after_andThen, hrequest]
    rfl
  exact dial_of_attempt (validate_of_url (reach_eq_ok hreach)) hattempt htime

/-- A dial whose request is answered comes to what the answer amounts to. -/
theorem dial_of_answered {result : Except DialError Established}
    (hreach : reach o origin = .after wait (.ok url)) (hrequest : o.request url key = .ok request)
    (hupgrade : upgrade origin url request = .after more result)
    (htime : wait + more ≤ d.timeout) : d.dial o key origin = result := by
  refine dial_of_attempt (validate_of_url (reach_eq_ok hreach)) ?_ htime
  rw [attempt_eq, hreach, Timed.after_andThen, hrequest, Timed.now_andThen, hupgrade]
  rfl

/-- A dial that succeeds has gone through its stages in time. -/
theorem attempt_of_dial {w : Established} (h : d.dial o key origin = .ok w) :
    ∃ wait, attempt o key origin = .after wait (.ok w) ∧ wait ≤ d.timeout := by
  cases hvalid : o.validate with
  | error cause =>
    rw [(dial_invalid d hvalid key origin).1] at h
    cases h
  | ok _ =>
    rw [dial_eq_getD hvalid] at h
    cases hattempt : attempt o key origin with
    | never =>
      rw [hattempt] at h
      cases h
    | after wait result =>
      rw [hattempt, Timed.within_after] at h
      by_cases htime : wait ≤ d.timeout
      · rw [if_pos htime] at h
        exact ⟨wait, congrArg _ h, htime⟩
      · rw [if_neg htime] at h
        cases h

/-- A dial that succeeds has reached its URL, has sent a request, and has been answered in time. -/
theorem dial_eq_ok {w : Established} (h : d.dial o key origin = .ok w) :
    ∃ wait url request more, reach o origin = .after wait (.ok url) ∧
      o.request url key = .ok request ∧ upgrade origin url request = .after more (.ok w) ∧
      wait + more ≤ d.timeout := by
  obtain ⟨whole, hattempt, htime⟩ := attempt_of_dial h
  rw [attempt_eq] at hattempt
  obtain ⟨wait, url, rest, hreach, hrest, rfl⟩ := Timed.andThen_eq_ok hattempt
  obtain ⟨first, request, more, hnow, hupgrade, rfl⟩ := Timed.andThen_eq_ok hrest
  obtain ⟨rfl, hrequest⟩ := Timed.after.inj hnow
  rw [Duration.zero_add] at htime
  exact ⟨wait, url, request, more, hreach, hrequest, hupgrade, htime⟩

end Reached

end Dialer

end Carrier
