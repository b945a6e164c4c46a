import Carrier.Proofs.Dial.Flaws
import Carrier.Proofs.Dial.Hearing

/-!
# The course of a dial

Connecting, TLS and the upgrade follow one another. Each way in which they can go takes as long as
its stages do together, and the stages of a dial go in one of these ways or in none that ends.

- `Dialer.Secured`: how TLS goes.
- `UpgradeAnswer.Rejects`: complete answers that refuse an upgrade.
- `Dialer.Answered`: how the upgrade goes.
- `Dialer.Course`: how all stages go, and how long they take.
- `Dialer.attempt_eq_after_iff`: the stages of a dial take one of these courses.
-/

namespace Carrier

/-! ### The ways of a dial -/

/-- The address of a URL takes the connection after so long. -/
def Origin.Connects (origin : Origin) (url : Url) (wait : Duration) : Prop :=
  ∃ address, DialOptions.address url = .ok address ∧ origin.connect address = .after wait (.ok ())

/-- An answer of the current version has a status, and it is not that of an upgrade. -/
structure UpgradeAnswer.Rejects (a : UpgradeAnswer) : Prop where
  /-- The version is the current one. -/
  current : a.old = false
  /-- The status is one. -/
  status : 100 ≤ a.status
  /-- It is not that of an upgrade. -/
  other : a.status ≠ 101

namespace Dialer

/-- `Secured o origin url wait result`: after so long TLS is agreed on, or why it is not. -/
inductive Secured (o : DialOptions) (origin : Origin) (url : Url) :
    Duration → Except String Unit → Prop where
  /-- It is not used. -/
  | plain (scheme : url.scheme ≠ "wss") : Secured o origin url ⟨0⟩ (.ok ())
  /-- What the server is to prove is no name. -/
  | nameless {name : String} (scheme : url.scheme = "wss") (asked : o.serverName = .ok name)
    (noName : ServerName.isName name = false) :
    Secured o origin url ⟨0⟩ (.error "Invalid server name: invalid dns name")
  /-- The origin does not agree. -/
  | disagreed {terms : TlsTerms} {wait : Duration} {reason : String}
    (asked : o.tlsTerms url = .ok (some terms))
    (answer : origin.agree terms = .after wait (.error reason)) :
    Secured o origin url wait (.error ("TLS handshake failed: " ++ reason))
  /-- The origin agrees. -/
  | agreed {terms : TlsTerms} {wait : Duration} (asked : o.tlsTerms url = .ok (some terms))
    (answer : origin.agree terms = .after wait (.ok ())) : Secured o origin url wait (.ok ())

/-- `Answered o key origin url wait result`: so long after TLS the upgrade has come to this. -/
inductive Answered (o : DialOptions) (key : HeaderValue) (origin : Origin) (url : Url) :
    Duration → Except DialError Established → Prop where
  /-- A header of the request cannot be sent. -/
  | unsendable {r : UpgradeRequest} (built : UpgradeRequest.build url o key = .ok r)
    (stuck : r.sent? = none) :
    Answered o key origin url ⟨0⟩ (.error (.handshake UpgradeFault.unsendable.message))
  /-- There is no complete answer. -/
  | unanswered {wait : Duration} {request : SentRequest} {fault : UpgradeFault}
    (sent : o.request url key = .ok request) (heard : origin.Heard wait (.error fault)) :
    Answered o key origin url wait (.error (.handshake fault.message))
  /-- The answer refuses the upgrade. -/
  | rejected {wait : Duration} {request : SentRequest} {answer : UpgradeAnswer} {early : Bytes}
    (sent : o.request url key = .ok request) (heard : origin.Heard wait (.ok (answer, early)))
    (rejects : answer.Rejects) :
    Answered o key origin url wait
      (.error (.rejected answer.status ((answer.first? "location").bind UpgradeAnswer.visible?)))
  /-- The answer does not refuse the upgrade, but is none. -/
  | wrong {wait : Duration} {request : SentRequest} {answer : UpgradeAnswer} {early : Bytes}
    {fault : UpgradeFault} (sent : o.request url key = .ok request)
    (heard : origin.Heard wait (.ok (answer, early))) (accepts : ¬ answer.Rejects)
    (found : answer.fault? request.accept request.subprotocols = some fault) :
    Answered o key origin url wait (.error (.handshake fault.message))
  /-- The answer is an upgrade. -/
  | upgraded {wait : Duration} {request : SentRequest} {answer : UpgradeAnswer} {early : Bytes}
    (sent : o.request url key = .ok request) (heard : origin.Heard wait (.ok (answer, early)))
    (right : answer.fault? request.accept request.subprotocols = none) :
    Answered o key origin url wait (.ok ⟨url, request, early⟩)

/-- `Course o key origin url wait result`: connecting, TLS and the upgrade are over after so long,
and have come to this. -/
inductive Course (o : DialOptions) (key : HeaderValue) (origin : Origin) (url : Url) :
    Duration → Except DialError Established → Prop where
  /-- The connection is refused. -/
  | refused {address : DialAddress} {wait : Duration} {fault : IoFault}
    (place : DialOptions.address url = .ok address)
    (answer : origin.connect address = .after wait (.error fault)) :
    Course o key origin url wait (.error (.connect address.shown fault))
  /-- TLS fails. -/
  | insecure {first second : Duration} {reason : String} (connects : origin.Connects url first)
    (tls : Secured o origin url second (.error reason)) :
    Course o key origin url (first + second) (.error (.tls reason))
  /-- The upgrade is what decides. -/
  | answered {first second third : Duration} {result : Except DialError Established}
    (connects : origin.Connects url first) (tls : Secured o origin url second (.ok ()))
    (answered : Answered o key origin url third result) :
    Course o key origin url (first + (second + third)) result

end Dialer

/-! ### What is wrong with an answer -/

namespace UpgradeAnswer

variable {accept : String} {asked : Option (List String)} {a : UpgradeAnswer}

theorem Rejects.fault?_eq (h : a.Rejects) :
    a.fault? accept asked =
      some (.rejected a.status ((a.first? "location").bind visible?)) := by
  unfold fault?
  rw [h.current, if_neg (by decide), if_neg (Nat.not_lt.mpr h.status), if_pos h.other]

theorem subprotocolFault?_ne_rejected (answered : Option Bytes) (status : Nat)
    (location : Option String) :
    subprotocolFault? asked answered ≠ some (.rejected status location) := by
  intro h
  unfold subprotocolFault? at h
  cases asked with
  | none => cases answered <;> cases h
  | some names =>
    cases answered with
    | none => cases h
    | some value =>
      dsimp only at h
      cases hvisible : visible? value with
      | none =>
        rw [hvisible] at h
        cases h
      | some name =>
        rw [hvisible] at h
        dsimp only at h
        split at h <;> cases h

theorem rejects_of_fault? {status : Nat} {location : Option String}
    (h : a.fault? accept asked = some (.rejected status location)) : a.Rejects := by
  unfold fault? at h
  split at h
  · cases h
  · rename_i hcurrent
    split at h
    · cases h
    · rename_i hstatus
      split at h
      · rename_i hother
        exact ⟨by simpa using hcurrent, Nat.not_lt.mp hstatus, hother⟩
      · -- nothing that is wrong behind the status is a rejection
        split at h
        · cases h
        · split at h
          · cases h
          · split at h
            · cases h
            · exact absurd h (subprotocolFault?_ne_rejected _ _ _)

/-- What else is wrong with an answer is a failure of the upgrade itself. -/
theorem dialError_of_not_rejects (h : ¬ a.Rejects) {fault : UpgradeFault}
    (hfault : a.fault? accept asked = some fault) :
    fault.dialError = .handshake fault.message := by
  cases fault with
  | rejected status location => exact absurd (rejects_of_fault? hfault) h
  | _ => rfl

end UpgradeAnswer

/-- What is heard instead of an answer is a failure of the upgrade itself. -/
theorem Origin.Heard.dialError {origin : Origin} {wait : Duration} {fault : UpgradeFault}
    (h : origin.Heard wait (.error fault)) : fault.dialError = .handshake fault.message := by
  cases h with
  | settled _ _ settles => cases settles <;> rfl
  | closed => rfl
  | failed => rfl

/-! ### Each stage -/

section Outcomes

variable {ε ε' α : Type} {cause : ε → ε'} {x : Except ε α}

theorem Except.mapError_eq_error_iff {e : ε'} :
    x.mapError cause = .error e ↔ ∃ fault, x = .error fault ∧ e = cause fault := by
  cases x <;> simp [Except.mapError, eq_comm (a := e)]

theorem Except.mapError_eq_ok_iff {a : α} : x.mapError cause = .ok a ↔ x = .ok a := by
  cases x <;> simp [Except.mapError]

end Outcomes

namespace Dialer

variable {o : DialOptions} {key : HeaderValue} {origin : Origin} {url : Url}

theorem stage_eq_after_iff {ε α : Type} {cause : ε → DialError} {x : Timed (Except ε α)}
    {wait : Duration} {result : Except DialError α} :
    stage cause x = .after wait result ↔
      ∃ found, x = .after wait found ∧ result = found.mapError cause := by
  cases x with
  | never => simp [stage]
  | after first found => simp [stage, eq_comm (a := result)]

/-- TLS, with the terms that it takes. -/
def tls (o : DialOptions) (origin : Origin) (url : Url) : Timed (Except DialError Unit) :=
  (Timed.now (o.tlsTerms url)).andThen (secure origin)

theorem tlsTerms_eq_none {o : DialOptions} (h : o.tlsTerms url = .ok none) :
    url.scheme ≠ "wss" := by
  intro hscheme
  unfold DialOptions.tlsTerms at h
  rw [if_neg (not_not.mpr hscheme)] at h
  cases hname : o.serverName with
  | error cause =>
    rw [hname] at h
    cases h
  | ok name =>
    rw [hname] at h
    dsimp only at h
    split at h <;> cases h

theorem tls_eq_after_iff (hurl : o.webSocketUrl = .ok url) {wait : Duration}
    {result : Except DialError Unit} :
    tls o origin url = .after wait result ↔
      ∃ found, Secured o origin url wait found ∧ result = found.mapError .tls := by
  unfold tls
  constructor
  · intro h
    cases hterms : o.tlsTerms url with
    | error cause =>
      rw [hterms] at h
      cases h
      obtain ⟨hscheme, ⟨name, hname, hinvalid⟩, rfl⟩ :=
        (DialOptions.tlsTerms_eq_error_iff hurl url).mp hterms
      exact ⟨_, .nameless hscheme hname hinvalid, rfl⟩
    | ok terms =>
      rw [hterms, Timed.now_andThen] at h
      cases terms with
      | none =>
        cases h
        exact ⟨_, .plain (tlsTerms_eq_none hterms), rfl⟩
      | some terms =>
        rw [secure_some, stage_eq_after_iff] at h
        obtain ⟨found, hagree, rfl⟩ := h
        cases found with
        | error reason => exact ⟨_, .disagreed hterms hagree, rfl⟩
        | ok _ => exact ⟨_, .agreed hterms hagree, rfl⟩
  · rintro ⟨found, hsecured, rfl⟩
    cases hsecured with
    | plain hscheme =>
      have hterms : o.tlsTerms url = .ok none := if_pos hscheme
      rw [hterms]
      rfl
    | nameless hscheme hname hinvalid =>
      rw [(DialOptions.tlsTerms_eq_error_iff hurl url).mpr ⟨hscheme, ⟨_, hname, hinvalid⟩, rfl⟩]
      rfl
    | disagreed hterms hagree =>
      rw [hterms, Timed.now_andThen, secure_some, hagree]
      rfl
    | agreed hterms hagree =>
      rw [hterms, Timed.now_andThen, secure_some, hagree]
      rfl

/-- What an upgrade comes to with what is heard of its answer. -/
def comesTo (url : Url) (request : SentRequest) :
    Except UpgradeFault (UpgradeAnswer × Bytes) → Except DialError Established
  | .error fault => .error fault.dialError
  | .ok (answer, early) =>
    match answer.fault? request.accept request.subprotocols with
    | some fault => .error fault.dialError
    | none => .ok ⟨url, request, early⟩

/-- An upgrade is over when its answer has been heard. -/
theorem upgrade_eq_after_iff {request : SentRequest} {wait : Duration}
    {result : Except DialError Established} :
    upgrade origin url request = .after wait result ↔
      ∃ found, origin.Heard wait found ∧ result = comesTo url request found := by
  simp only [← Origin.listen_eq_after_iff]
  cases hlisten : Arrival.listen {} origin.last origin.writes with
  | never =>
    have hupgrade : upgrade origin url request = .never := by
      unfold upgrade
      rw [hlisten]
      rfl
    simp [hupgrade]
  | after first found =>
    have hupgrade : upgrade origin url request = .after first (comesTo url request found) := by
      cases found with
      | error fault =>
        unfold upgrade
        rw [hlisten]
        rfl
      | ok found =>
        obtain ⟨answer, early⟩ := found
        cases hfault : answer.fault? request.accept request.subprotocols with
        | some fault => rw [upgrade_of_fault hlisten hfault, comesTo, hfault]
        | none => rw [upgrade_of_none hlisten hfault, comesTo, hfault]
    simp [hupgrade, eq_comm (a := result)]

/-- The request and what is answered to it. -/
def answer (o : DialOptions) (key : HeaderValue) (origin : Origin) (url : Url) :
    Timed (Except DialError Established) :=
  (Timed.now (o.request url key)).andThen (upgrade origin url)

theorem answer_of_sent {request : SentRequest} (h : o.request url key = .ok request) :
    answer o key origin url = upgrade origin url request := by
  unfold answer
  rw [h, Timed.now_andThen]

theorem answer_eq_after_iff {r : UpgradeRequest} (hbuild : UpgradeRequest.build url o key = .ok r)
    {wait : Duration} {result : Except DialError Established} :
    answer o key origin url = .after wait result ↔ Answered o key origin url wait result := by
  constructor
  · intro h
    cases hsent : o.request url key with
    | error cause =>
      unfold answer at h
      rw [hsent] at h
      rcases DialOptions.request_eq_error.mp hsent with hfail | ⟨r, hbuild, hstuck, rfl⟩
      · cases hbuild.symm.trans hfail
      · cases h
        exact .unsendable hbuild hstuck
    | ok request =>
      rw [answer_of_sent hsent] at h
      obtain ⟨found, hheard, rfl⟩ := upgrade_eq_after_iff.mp h
      cases found with
      | error fault =>
        rw [comesTo, hheard.dialError]
        exact .unanswered hsent hheard
      | ok found =>
        obtain ⟨answer, early⟩ := found
        cases hfault : answer.fault? request.accept request.subprotocols with
        | none =>
          rw [comesTo, hfault]
          exact .upgraded hsent hheard hfault
        | some fault =>
          rw [comesTo, hfault]
          by_cases hrejects : answer.Rejects
          · cases hfault.symm.trans hrejects.fault?_eq
            exact .rejected hsent hheard hrejects
          · dsimp only
            rw [UpgradeAnswer.dialError_of_not_rejects hrejects hfault]
            exact .wrong hsent hheard hrejects hfault
  · intro h
    cases h with
    | unsendable hbuild hstuck =>
      unfold answer
      rw [DialOptions.request_of_stuck hbuild hstuck]
      rfl
    | unanswered hsent hheard =>
      rw [answer_of_sent hsent, upgrade_eq_after_iff]
      exact ⟨_, hheard, by rw [comesTo, hheard.dialError]⟩
    | rejected hsent hheard hrejects =>
      rw [answer_of_sent hsent, upgrade_eq_after_iff]
      exact ⟨_, hheard, by rw [comesTo, hrejects.fault?_eq]; rfl⟩
    | wrong hsent hheard hrejects hfault =>
      rw [answer_of_sent hsent, upgrade_eq_after_iff]
      refine ⟨_, hheard, ?_⟩
      rw [comesTo, hfault]
      dsimp only
      rw [UpgradeAnswer.dialError_of_not_rejects hrejects hfault]
    | upgraded hsent hheard hnone =>
      rw [answer_of_sent hsent, upgrade_eq_after_iff]
      exact ⟨_, hheard, by rw [comesTo, hnone]⟩

/-! ### All stages -/

/-- A dial connects, secures the connection, and asks. -/
theorem attempt_stages (hurl : o.webSocketUrl = .ok url) {address : DialAddress}
    (haddress : DialOptions.address url = .ok address) :
    attempt o key origin =
      (stage (.connect address.shown) (origin.connect address)).andThen fun _ =>
        (tls o origin url).andThen fun _ => answer o key origin url := by
  rw [attempt_eq]
  unfold reach tls answer
  rw [hurl]
  dsimp only
  rw [haddress, Timed.now_andThen]
  simp only [Timed.andThen_assoc, Timed.now_andThen]

/-- The ways in which the stages can go are those in which they do. -/
theorem attempt_eq_after_iff (hurl : o.webSocketUrl = .ok url) {r : UpgradeRequest}
    (hbuild : UpgradeRequest.build url o key = .ok r) {wait : Duration}
    {result : Except DialError Established} :
    attempt o key origin = .after wait result ↔ Course o key origin url wait result := by
  obtain ⟨address, haddress, -⟩ := DialOptions.webSocketUrl_place hurl
  rw [attempt_stages hurl haddress]
  constructor
  · intro h
    rcases Timed.andThen_eq_after_iff.mp h with
      ⟨cause, hconnect, rfl⟩ | ⟨first, _, rest, hconnect, hrest, rfl⟩
    · obtain ⟨found, hanswer, hcause⟩ := stage_eq_after_iff.mp hconnect
      obtain ⟨fault, rfl, rfl⟩ := Except.mapError_eq_error_iff.mp hcause.symm
      exact .refused haddress hanswer
    · obtain ⟨found, hanswer, hfound⟩ := stage_eq_after_iff.mp hconnect
      obtain rfl := Except.mapError_eq_ok_iff.mp hfound.symm
      have hconnects : origin.Connects url first := ⟨address, haddress, hanswer⟩
      rcases Timed.andThen_eq_after_iff.mp hrest with
        ⟨cause, htls, rfl⟩ | ⟨second, _, third, htls, hanswered, rfl⟩
      · obtain ⟨found, hsecured, hcause⟩ := (tls_eq_after_iff hurl).mp htls
        obtain ⟨reason, rfl, rfl⟩ := Except.mapError_eq_error_iff.mp hcause.symm
        exact .insecure hconnects hsecured
      · obtain ⟨found, hsecured, hfound⟩ := (tls_eq_after_iff hurl).mp htls
        obtain rfl := Except.mapError_eq_ok_iff.mp hfound.symm
        exact .answered hconnects hsecured ((answer_eq_after_iff hbuild).mp hanswered)
  · intro h
    have hconnected {first : Duration} (hconnects : origin.Connects url first) :
        stage (.connect address.shown) (origin.connect address) = .after first (.ok ()) := by
      obtain ⟨place, hplace, hanswer⟩ := hconnects
      cases haddress.symm.trans hplace
      rw [hanswer]
      rfl
    cases h with
    | refused hplace hanswer =>
      cases haddress.symm.trans hplace
      rw [hanswer]
      rfl
    | insecure hconnects hsecured =>
      rw [hconnected hconnects, Timed.after_andThen, (tls_eq_after_iff hurl).mpr ⟨_, hsecured, rfl⟩]
      rfl
    | answered hconnects hsecured hanswered =>
      rw [hconnected hconnects, Timed.after_andThen, (tls_eq_after_iff hurl).mpr ⟨_, hsecured, rfl⟩,
        (answer_eq_after_iff hbuild).mpr hanswered]
      rfl

end Dialer

end Carrier
