import Carrier.Config.Basic
import Carrier.Proofs.Header.Assembly
import Carrier.Proofs.Override.Trust
import Carrier.Proofs.Related

/-!
# What environment variables can change

The options of a session are made of an entry and of environment variables, and the variables enter
through the two texts of the service token alone. Whatever they are, the options can be made or not,
and what differs stands under the names of the token.

- `Tokened`: the values under the name of a token.
- `HeaderMap.valuesOf_forAccess_other`: other headers do not depend on the token.
- `DialOptions.resolve_headers`: an override has nothing to do with the headers.
- `DialOptions.SameButToken`: options that differ in nothing but the headers of the token.
- `ForwarderEntry.options_environment`: the options of an entry in two environments.
-/

namespace Carrier

/-! ### Tokens in a header map -/

/-- `Tokened name pairs token values`: what stands under the name of a token, where custom headers
and the token have been given. -/
inductive Tokened (name : HeaderName) (pairs : List String) :
    Option String → List HeaderValue → Prop where
  /-- The token, as a secret, if it is a value and not empty. -/
  | set {token : String} {value : HeaderValue} (given : token ≠ "") (text : value.text = token)
    (secret : value.sensitive = true) : Tokened name pairs (some token) [value]
  /-- Otherwise what the custom headers have put there. -/
  | custom {token : Option String} {values : List HeaderValue}
    (unusable : ∀ t ∈ token, t = "" ∨ isHeaderValue t = false)
    (assembled : Assembled name [.pairs pairs] [] values) : Tokened name pairs token values

namespace HeaderMap

variable {name other : HeaderName}

/-- A token leaves what stands under other names. -/
theorem valuesOf_setToken_of_ne (m : HeaderMap) (token : String) (h : name ≠ other) :
    (m.setToken name token).valuesOf other = m.valuesOf other := by
  unfold setToken
  split
  · rfl
  · split
    · rw [valuesOf_replace, if_neg h]
    · rfl

/-- A target is added behind what stands under its name. -/
theorem valuesOf_addJumpDestination (m : HeaderMap) (destination : String) (name : HeaderName) :
    (m.addJumpDestination destination).valuesOf name =
      m.valuesOf name ++ (empty.addJumpDestination destination).valuesOf name := by
  unfold addJumpDestination
  split
  · simp
  · split <;> simp

/-- What stands under the name of a token that is set on top of custom headers. -/
theorem tokened_setToken {m : HeaderMap} {pairs : List String}
    (h : Assembled name [.pairs pairs] [] (m.valuesOf name)) (token : String) :
    Tokened name pairs (some token) ((m.setToken name token).valuesOf name) := by
  by_cases husable : token ≠ "" ∧ isHeaderValue token = true
  · obtain ⟨hgiven, hvalid⟩ := husable
    let value : HeaderValue := ⟨token, true, hvalid⟩
    have hset := setToken_eq m name hgiven (rfl : value.text = token) rfl
    rw [hset, valuesOf_replace, if_pos rfl]
    exact .set hgiven rfl rfl
  · have hunusable : token = "" ∨ isHeaderValue token = false := by
      rcases Decidable.not_and_iff_or_not.mp husable with hempty | hinvalid
      · exact .inl (Decidable.not_not.mp hempty)
      · exact .inr (Bool.eq_false_iff.mpr hinvalid)
    rw [setToken_idle m name]
    · exact .custom (by simpa using hunusable) h
    · intro value hgiven htext _
      -- the value would make the token a usable one
      exact husable ⟨hgiven, htext ▸ value.valid⟩

theorem tokened_elim {m : HeaderMap} {pairs : List String}
    (h : Assembled name [.pairs pairs] [] (m.valuesOf name)) (token : Option String) :
    Tokened name pairs token ((token.elim m (m.setToken name)).valuesOf name) := by
  cases token with
  | none => exact .custom nofun h
  | some token => exact m.tokened_setToken h token

theorem valuesOf_elim_setToken (m : HeaderMap) (token : Option String) (h : name ≠ other) :
    (token.elim m (m.setToken name)).valuesOf other = m.valuesOf other := by
  cases token with
  | none => rfl
  | some token => exact m.valuesOf_setToken_of_ne token h

theorem valuesOf_elim_addJumpDestination (m : HeaderMap) (destination : Option String)
    (name : HeaderName) :
    (destination.elim m m.addJumpDestination).valuesOf name =
      m.valuesOf name ++ (destination.elim empty empty.addJumpDestination).valuesOf name := by
  cases destination with
  | none => simp
  | some destination => exact m.valuesOf_addJumpDestination destination name

/-- The target stands under its own name alone. -/
theorem valuesOf_elim_addJumpDestination_of_ne (m : HeaderMap) (destination : Option String)
    (h : name ≠ .jumpDestination) :
    (destination.elim m m.addJumpDestination).valuesOf name = m.valuesOf name := by
  cases destination with
  | none => rfl
  | some destination =>
    show (m.addJumpDestination destination).valuesOf name = m.valuesOf name
    unfold addJumpDestination
    split
    · rfl
    · split
      · rw [valuesOf_append, if_neg h.symm, List.append_nil]
      · rfl

/-! ### The headers of a session -/

section Session

variable (pairs : List String) (id secret destination : Option String)

theorem assembled_addPairs (name : HeaderName) :
    Assembled name [.pairs pairs] [] ((empty.addPairs pairs).valuesOf name) :=
  empty.assembled_after [.pairs pairs] name

/-- The token has nothing to do with what stands under other names. -/
theorem valuesOf_forAccess_other (hid : name ≠ .clientId) (hsecret : name ≠ .clientSecret) :
    (forAccess pairs id secret destination).valuesOf name =
      (forAccess pairs none none destination).valuesOf name := by
  unfold forAccess
  dsimp only
  rw [valuesOf_elim_addJumpDestination,
    valuesOf_elim_addJumpDestination (m := Option.elim none _ _)]
  congr 1
  have hsecond := valuesOf_elim_setToken (id.elim (empty.addPairs pairs)
    (empty.addPairs pairs).setClientId) secret hsecret.symm
  have hfirst := valuesOf_elim_setToken (empty.addPairs pairs) id hid.symm
  exact hsecond.trans hfirst

theorem tokened_clientId :
    Tokened .clientId pairs id ((forAccess pairs id secret destination).valuesOf .clientId) := by
  have htoken := tokened_elim (assembled_addPairs pairs .clientId) id
  unfold forAccess
  dsimp only
  rw [valuesOf_elim_addJumpDestination_of_ne _ _ (by decide +kernel)]
  -- the secret of the token leaves the name of its identity alone
  have hapart : HeaderName.clientSecret ≠ .clientId := by decide +kernel
  have hsecond := valuesOf_elim_setToken (id.elim (empty.addPairs pairs)
    (empty.addPairs pairs).setClientId) secret hapart
  exact hsecond.symm ▸ htoken

theorem tokened_clientSecret :
    Tokened .clientSecret pairs secret
      ((forAccess pairs id secret destination).valuesOf .clientSecret) := by
  unfold forAccess
  dsimp only
  rw [valuesOf_elim_addJumpDestination_of_ne _ _ (by decide +kernel)]
  refine tokened_elim ?_ secret
  -- the identity of the token leaves the name of its secret alone
  have hapart : HeaderName.clientId ≠ .clientSecret := by decide +kernel
  have hfirst := valuesOf_elim_setToken (empty.addPairs pairs) id hapart
  exact hfirst.symm ▸ assembled_addPairs pairs .clientSecret

end Session

end HeaderMap

/-! ### Options -/

namespace DialOptions

/-- What an override changes and reports has nothing to do with the headers. -/
theorem resolve_headers (raw : String) (base : DialOptions) (headers : HeaderMap) :
    ({ base with headers := headers }).resolve raw =
      (base.resolve raw).map fun (options, records) =>
        ({ options with headers := headers }, records) := by
  unfold resolve
  split
  · rfl
  · cases Override.parse raw with
    | error cause => rfl
    | ok o =>
      show Except.ok (o.apply { base with headers := headers }) =
        Except.ok ({ (o.apply base).1 with headers := headers }, (o.apply base).2)
      rw [Override.apply_eq, Override.apply_eq]

/-- Two sessions' options that differ in nothing but the headers of the service token, with the same
reports. -/
structure SameButToken (x y : DialOptions × List LogRecord) : Prop where
  /-- The same is reported. -/
  reported : x.2 = y.2
  /-- The origin is the same. -/
  origin : x.1.origin = y.1.origin
  /-- The host that is presented is the same. -/
  host : x.1.host = y.1.host
  /-- The terms of TLS are the same. -/
  tls : x.1.tls = y.1.tls
  /-- Under any other name stand the same values. -/
  headers : ∀ name, name ≠ .clientId → name ≠ .clientSecret →
    x.1.headers.valuesOf name = y.1.headers.valuesOf name

end DialOptions

namespace ForwarderEntry

open DialOptions

/-- The options of an entry without its headers, which is what an override is applied to. -/
def bare (e : ForwarderEntry) : Except ConfigFault (DialOptions × List LogRecord) :=
  (DialOptions.resolve (e.connectTo.getD "") { origin := ensureScheme e.url }).mapError
    (.invalidOverride e.listener)

/-- The environment enters with the headers, after everything else has been decided. -/
theorem options_eq (env : Environment) (e : ForwarderEntry) :
    e.options env = e.bare.map fun (options, records) =>
      ({ options with headers := e.accessHeaders env }, records) := by
  have hheaders := resolve_headers (e.connectTo.getD "") { origin := ensureScheme e.url }
    (e.accessHeaders env)
  unfold options bare
  dsimp only at hheaders ⊢
  rw [hheaders]
  cases DialOptions.resolve (e.connectTo.getD "") { origin := ensureScheme e.url } <;> rfl

theorem headers_of_options {env : Environment} {e : ForwarderEntry} {options : DialOptions}
    {records : List LogRecord} (h : e.options env = .ok (options, records)) :
    options.headers = e.accessHeaders env := by
  rw [options_eq] at h
  cases hbare : e.bare with
  | error fault =>
    rw [hbare] at h
    cases h
  | ok found =>
    rw [hbare] at h
    cases h
    rfl

theorem options_related (e : ForwarderEntry) (env env' : Environment) :
    ExceptRel Eq SameButToken (e.options env) (e.options env') := by
  rw [options_eq, options_eq]
  refine (ExceptRel.refl (fun _ => rfl) (fun _ => rfl) e.bare : ExceptRel Eq Eq _ _).map ?_
  rintro ⟨options, records⟩ _ rfl
  refine ⟨rfl, rfl, rfl, rfl, fun name hid hsecret => ?_⟩
  have hother (env : Environment) := HeaderMap.valuesOf_forAccess_other e.headers
    (e.tokenId.map (Expansion.expand env)) (e.tokenSecret.map (Expansion.expand env))
    e.destination hid hsecret
  exact (hother env).trans (hother env').symm

/-- In any two environments the options of an entry fail with the same fault, or are the same with
the same reports but for the headers of the service token. The headers are those of a session with
the custom headers and the target of the entry and with the expanded token; so that under the names
of the token stands the expanded text, as a secret, if it is not empty and is a value, and otherwise
what the custom headers have put there. -/
theorem options_environment (e : ForwarderEntry) (env env' : Environment) :
    ExceptRel Eq SameButToken (e.options env) (e.options env') ∧
      ∀ options records, e.options env = .ok (options, records) →
        let id := e.tokenId.map (Expansion.expand env)
        let secret := e.tokenSecret.map (Expansion.expand env)
        options.headers = HeaderMap.forAccess e.headers id secret e.destination ∧
          Tokened .clientId e.headers id (options.headers.valuesOf .clientId) ∧
          Tokened .clientSecret e.headers secret (options.headers.valuesOf .clientSecret) := by
  refine ⟨e.options_related env env', fun options records hoptions => ?_⟩
  dsimp only
  rw [headers_of_options hoptions]
  exact ⟨rfl, HeaderMap.tokened_clientId _ _ _ _, HeaderMap.tokened_clientSecret _ _ _ _⟩

/-- A variable that is not set leaves the value of a custom header where a token would have taken
its place. -/
example :
    let e : ForwarderEntry :=
      { url := "ssh.example.com", listener := "localhost:2222", tokenId := some "${ID}"
        headers := ["CF-Access-Client-Id: custom"] }
    let idsIn (env : Environment) :=
      (e.options env).map fun found =>
        (found.1.headers.valuesOf .clientId).map fun value => (value.text, value.sensitive)
    idsIn (fun name => if name = "ID" then some "token" else none) = .ok [("token", true)] ∧
      idsIn (fun _ => none) = .ok [("custom", false)] := by
  decide +kernel

end ForwarderEntry

end Carrier
