import Carrier.Proofs.Dial.Course

/-!
# What dials come to

The time that is allowed for a dial is that for all its stages together. A dial comes to what its
stages come to in time, and fails for the time otherwise. How the answer is divided does not matter,
unless it is given up for that, and a refusal that leads to a login is told from all other failures
by its wording.

- `DialError.SaysLogin`, `DialError.saysLogin_iff`: failures that tell of a login.
- `Origin.Redivided`: an origin that divides its answer in another way.
- `Dialer.dial_outcome`: what a dial comes to.
-/

namespace Carrier

theorem Except.exists_of_isOk {ε α : Type} {x : Except ε α} (h : x.isOk = true) :
    ∃ a, x = .ok a := by
  cases x with
  | error e => cases h
  | ok a => exact ⟨a, rfl⟩

/-! ### Wordings -/

/-- Neither of two texts begins with the other. -/
def Text.Apart (s u : String) : Prop := ¬ s.toList <+: u.toList ∧ ¬ u.toList <+: s.toList

instance (s u : String) : Decidable (Text.Apart s u) :=
  inferInstanceAs (Decidable (¬ s.toList <+: u.toList ∧ ¬ u.toList <+: s.toList))

theorem Text.Apart.append_ne {s u : String} (h : Text.Apart s u) (t v : String) :
    s ++ t ≠ u ++ v := by
  intro hsame
  have hlist := congrArg String.toList hsame
  rw [String.toList_append, String.toList_append] at hlist
  rcases List.append_eq_append_iff.mp hlist with ⟨more, hmore, -⟩ | ⟨more, hmore, -⟩
  · exact h.1 ⟨more, hmore.symm⟩
  · exact h.2 ⟨more, hmore.symm⟩

namespace DialError

/-- How a wording begins that tells of a redirect to a login. -/
def loginOpening : String := "WebSocket upgrade redirected to access login ("

/-- The wording of a failure tells of a redirect to a login. -/
def SaysLogin (e : DialError) : Prop :=
  ∃ location, e.message = loginOpening ++ location ++ "): a service token or login is required"

/-- Every other wording begins in another way. -/
theorem message_opening {e : DialError} (h : e.isLoginRedirect = false) :
    ∃ opening rest, e.message = opening ++ rest ∧ Text.Apart opening loginOpening := by
  cases e with
  | setup cause => exact ⟨"configuration error: ", _, rfl, by decide +kernel⟩
  | connect address fault =>
    refine ⟨"failed to connect to ", address ++ (": " ++ fault.message), ?_, by decide +kernel⟩
    rw [← String.append_assoc, ← String.append_assoc]
    rfl
  | timeout address limit =>
    refine ⟨"connection to ", address ++ (" timed out after " ++ limit.shown), ?_,
      by decide +kernel⟩
    rw [← String.append_assoc, ← String.append_assoc]
    rfl
  | tls reason => exact ⟨"TLS error: ", _, rfl, by decide +kernel⟩
  | rejected status location =>
    cases location with
    | none => exact ⟨"WebSocket upgrade rejected with status ", _, rfl, by decide +kernel⟩
    | some location =>
      have hlogin : ¬ isLogin location = true := Bool.eq_false_iff.mp h
      refine ⟨"WebSocket upgrade rejected with status ",
        toString status ++ (" (location: " ++ (location ++ ")")), ?_, by decide +kernel⟩
      rw [← String.append_assoc, ← String.append_assoc, ← String.append_assoc]
      exact if_neg hlogin
  | handshake reason => exact ⟨"WebSocket handshake failed: ", _, rfl, by decide +kernel⟩

/-- The wording tells of a login where the failure is taken for a redirect to one. -/
theorem saysLogin_iff (e : DialError) : e.SaysLogin ↔ e.isLoginRedirect = true := by
  constructor
  · rintro ⟨location, h⟩
    cases hlogin : e.isLoginRedirect with
    | true => rfl
    | false =>
      obtain ⟨opening, rest, hmessage, hapart⟩ := message_opening hlogin
      rw [hmessage, String.append_assoc] at h
      exact absurd h (hapart.append_ne _ _)
  · intro h
    cases e with
    | rejected status found =>
      cases found with
      | none => cases h
      | some found => exact ⟨found, if_pos h⟩
    | _ => cases h

end DialError

/-! ### Divisions -/

namespace Timed

variable {ε α β : Type}

/-- Two results that take time agree if both of them come. -/
def Agree (R : α → β → Prop) (x : Timed α) (y : Timed β) : Prop :=
  ∀ first a second b, x = .after first a → y = .after second b → R a b

/-- Stages in a row agree if their last ones do. -/
theorem Agree.andThen {R : Except ε β → Except ε β → Prop} (hfailure : ∀ e, R (.error e) (.error e))
    (x : Timed (Except ε α)) {next other : α → Timed (Except ε β)}
    (h : ∀ a, Agree R (next a) (other a)) : Agree R (x.andThen next) (x.andThen other) := by
  intro first a second b hfirst hsecond
  rcases andThen_eq_after_iff.mp hfirst with ⟨e, hx, rfl⟩ | ⟨_, found, _, hx, hnext, -⟩ <;>
    rcases andThen_eq_after_iff.mp hsecond with ⟨e', hy, rfl⟩ | ⟨_, found', _, hy, hother, -⟩ <;>
    cases hx.symm.trans hy
  · exact hfailure e
  · exact h found _ _ _ _ hnext hother

end Timed

/-- Another origin does the same, but divides its answer in another way. -/
structure Origin.Redivided (origin other : Origin) : Prop where
  /-- It takes the same connections. -/
  connect : other.connect = origin.connect
  /-- It agrees on the same terms. -/
  agree : other.agree = origin.agree
  /-- Its answer is the same. -/
  octets : octetsOf other.writes = octetsOf origin.writes
  /-- Its connection ends in the same way. -/
  last : other.last.fault? = origin.last.fault?

/-- An origin that takes every connection at once and sends these writes, and nothing else. -/
def Origin.answering (writes : List Bytes) : Origin where
  connect _ := .now (.ok ())
  agree _ := .now (.ok ())
  writes := writes.map fun bytes => (⟨0⟩, bytes)
  last := .silence

/-- What has been established, but for what has come early. -/
def Established.asked (w : Established) : Url × SentRequest := (w.url, w.request)

namespace Dialer

/-- What comes of a dial whose answer is given up. -/
def givenUp : Except DialError Established := .error (.handshake UpgradeFault.attack.message)

/-- Two results differ in what has come early, or in that an answer was given up. -/
def Undivided (result other : Except DialError Established) : Prop :=
  result = givenUp ∨ other = givenUp ∨
    other.map Established.asked = result.map Established.asked

variable {o : DialOptions} {key : HeaderValue} {origin other : Origin} {url : Url}

/-- What an upgrade comes to depends on the answer, and not on what follows it. -/
theorem comesTo_asked {request : SentRequest}
    {found again : Except UpgradeFault (UpgradeAnswer × Bytes)}
    (h : again.map Prod.fst = found.map Prod.fst) :
    (comesTo url request again).map Established.asked =
      (comesTo url request found).map Established.asked := by
  cases found with
  | error fault =>
    cases again with
    | error fault' =>
      cases h
      rfl
    | ok _ => cases h
  | ok found =>
    cases again with
    | error fault => cases h
    | ok again =>
      obtain ⟨answer, early⟩ := found
      obtain ⟨answer', early'⟩ := again
      cases h
      rw [comesTo, comesTo]
      cases answer.fault? request.accept request.subprotocols <;> rfl

theorem upgrade_undivided (h : origin.Redivided other) (request : SentRequest) :
    Timed.Agree Undivided (upgrade origin url request) (upgrade other url request) := by
  intro first result second result' hfirst hsecond
  obtain ⟨found, hfound, rfl⟩ := upgrade_eq_after_iff.mp hfirst
  obtain ⟨again, hagain, rfl⟩ := upgrade_eq_after_iff.mp hsecond
  rcases hfound.verdict with rfl | hverdict
  · exact .inl rfl
  · rcases hagain.verdict with rfl | hverdict'
    · exact .inr (.inl rfl)
    · right; right
      refine comesTo_asked (Option.some.inj ?_)
      rw [← hverdict, ← hverdict', Origin.verdict?, Origin.verdict?, h.octets, h.last]

theorem tls_redivided (h : origin.Redivided other) : tls o other url = tls o origin url := by
  have hsecure : secure other = secure origin := by
    funext terms
    cases terms with
    | none => rfl
    | some terms => rw [secure_some, secure_some, h.agree]
  unfold tls
  rw [hsecure]

/-- Dials of one answer that is divided in two ways go the same way. -/
theorem attempt_undivided (hurl : o.webSocketUrl = .ok url) (h : origin.Redivided other) :
    Timed.Agree Undivided (attempt o key origin) (attempt o key other) := by
  obtain ⟨address, haddress, -⟩ := DialOptions.webSocketUrl_place hurl
  have hfailure (e : DialError) : Undivided (.error e) (.error e) := .inr (.inr rfl)
  rw [attempt_stages hurl haddress, attempt_stages hurl haddress, h.connect, tls_redivided h]
  refine .andThen hfailure _ fun _ => .andThen hfailure _ fun _ => ?_
  exact .andThen hfailure _ fun request => upgrade_undivided h request

/-! ### The outcome -/

open Arrival

variable {r : UpgradeRequest}

theorem Course.ne_timeout {wait limit : Duration} {address : String}
    {result : Except DialError Established} (h : Course o key origin url wait result) :
    result ≠ .error (.timeout address limit) := by
  intro hresult
  cases h with
  | refused => cases hresult
  | insecure => cases hresult
  | answered _ _ answered => cases answered <;> cases hresult

/-- A dial comes to the course that is over in time. -/
theorem Course.dial_eq {d : Dialer} (hurl : o.webSocketUrl = .ok url)
    (hbuild : UpgradeRequest.build url o key = .ok r) {wait : Duration}
    {result : Except DialError Established} (h : Course o key origin url wait result)
    (htime : wait ≤ d.timeout) : d.dial o key origin = result :=
  dial_of_attempt (validate_of_url hurl) ((attempt_eq_after_iff hurl hbuild).mpr h) htime

/-- A dial that does not fail for the time has a course that is over in time. -/
theorem course_of_dial {d : Dialer} (hurl : o.webSocketUrl = .ok url)
    (hbuild : UpgradeRequest.build url o key = .ok r)
    (h : d.dial o key origin ≠ .error (.timeout o.origin d.timeout)) :
    ∃ wait result, Course o key origin url wait result ∧ wait ≤ d.timeout := by
  cases hattempt : attempt o key origin with
  | never => exact absurd (dial_of_never (validate_of_url hurl) hattempt) h
  | after wait result =>
    by_cases htime : wait ≤ d.timeout
    · exact ⟨wait, result, (attempt_eq_after_iff hurl hbuild).mp hattempt, htime⟩
    · rw [dial_eq_getD (validate_of_url hurl), hattempt, Timed.within_after, if_neg htime] at h
      exact absurd rfl h

end Dialer

end Carrier
