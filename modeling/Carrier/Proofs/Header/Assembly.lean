import Carrier.Proofs.Header.Outline
import Carrier.Proofs.Text.Fields

/-!
# How a header map comes about

A map is built by calls, each of which adds a value under one name, makes a value the only one under
one name, or does nothing. What stands under a name in the end is what the calls that concern this
name have made of what stood there in the beginning, one after the other.

- `HeaderCall`, `HeaderMap.call`, `HeaderMap.after`: the calls, and what comes of them.
- `HeaderCall.Adds`, `HeaderCall.Sets`: which value a call adds, or makes the only one, said of the
  text that it is given.
- `Assembled`: the values under one name, call by call.
- `HeaderMap.forAccess_eq_after`: the headers of a session are the result of calls.
- `HeaderMap.after_assembled`: every map that is built has the values that its calls amount to.
-/

namespace Carrier

/-! ### Names and values that a text spells -/

theorem HeaderName.parse?_eq_some_iff {s : String} {name : HeaderName} :
    parse? s = some name ↔ name.text = Text.lowerAscii s := by
  obtain ⟨text, valid⟩ := name
  constructor
  · intro h
    unfold parse? at h
    split at h
    · cases h
      rfl
    · cases h
  · rintro rfl
    exact dif_pos valid

theorem HeaderValue.parse?_eq_some_iff {s : String} {value : HeaderValue} :
    parse? s = some value ↔ value.text = s ∧ value.sensitive = false := by
  obtain ⟨text, sensitive, valid⟩ := value
  constructor
  · intro h
    unfold parse? at h
    split at h
    · cases h
      exact ⟨rfl, rfl⟩
    · cases h
  · rintro ⟨rfl, rfl⟩
    exact dif_pos valid

theorem HeaderValue.parseSecret?_eq_some_iff {s : String} {value : HeaderValue} :
    parseSecret? s = some value ↔ value.text = s ∧ value.sensitive = true := by
  obtain ⟨text, sensitive, valid⟩ := value
  constructor
  · intro h
    unfold parseSecret? at h
    split at h
    · cases h
      exact ⟨rfl, rfl⟩
    · cases h
  · rintro ⟨rfl, rfl⟩
    exact dif_pos valid

/-! ### Calls -/

/-- What is asked of a map that is built. -/
inductive HeaderCall where
  /-- To add a custom header. -/
  | pair (raw : String)
  /-- To add custom headers in order. -/
  | pairs (raws : List String)
  /-- To set the identity of the service token. -/
  | clientId (token : String)
  /-- To set the secret of the service token. -/
  | clientSecret (token : String)
  /-- To add a target behind the front end. -/
  | jumpDestination (destination : String)
  deriving DecidableEq, Repr

namespace HeaderCall

/-- The value that a call adds under a name. The types of names and values say that they are
valid. -/
inductive Adds : HeaderCall → HeaderName → HeaderValue → Prop where
  /-- The name is the text in front of the first colon, in any case of its letters, and the value
  is the text behind it, both without blanks at their ends. -/
  | pair {raw : String} {before after : List Char} {name : HeaderName} {value : HeaderValue}
    (divided : raw.toList = before ++ ':' :: after) (first : ':' ∉ before)
    (spelled : name.text = Text.lowerAscii (Text.trim (String.ofList before)))
    (text : value.text = Text.trim (String.ofList after)) (shown : value.sensitive = false) :
    Adds (.pair raw) name value
  /-- A target is taken as it is, unless it is empty. -/
  | jumpDestination {destination : String} {value : HeaderValue} (given : destination ≠ "")
    (text : value.text = destination) (shown : value.sensitive = false) :
    Adds (.jumpDestination destination) .jumpDestination value

/-- The value that a call makes the only one under a name: a token, which is a secret. -/
inductive Sets : HeaderCall → HeaderName → HeaderValue → Prop where
  | clientId {token : String} {value : HeaderValue} (given : token ≠ "")
    (text : value.text = token) (secret : value.sensitive = true) :
    Sets (.clientId token) .clientId value
  | clientSecret {token : String} {value : HeaderValue} (given : token ≠ "")
    (text : value.text = token) (secret : value.sensitive = true) :
    Sets (.clientSecret token) .clientSecret value

/-- A call that does nothing: no value is added or set under any name. -/
def Idle : HeaderCall → Prop
  | .pairs raws => ∀ raw ∈ raws, ∀ name value, ¬ Adds (.pair raw) name value
  | call => ∀ name value, ¬ call.Adds name value ∧ ¬ call.Sets name value

theorem Adds.shown {c : HeaderCall} {name : HeaderName} {value : HeaderValue}
    (h : c.Adds name value) : value.sensitive = false := by
  cases h <;> assumption

theorem idle_of_single {c : HeaderCall} (single : ∀ raws, c ≠ .pairs raws)
    (noneAdded : ¬ ∃ name value, c.Adds name value)
    (noneSet : ¬ ∃ name value, c.Sets name value) : c.Idle := by
  have hnone (name : HeaderName) (value : HeaderValue) :
      ¬ c.Adds name value ∧ ¬ c.Sets name value :=
    ⟨fun h => noneAdded ⟨name, value, h⟩, fun h => noneSet ⟨name, value, h⟩⟩
  cases c with
  | pairs raws => exact absurd rfl (single raws)
  | _ => exact hnone

end HeaderCall

/-- `Assembled name calls values result`: where `values` stand under a name, `result` stands there
after the calls. -/
inductive Assembled (name : HeaderName) :
    List HeaderCall → List HeaderValue → List HeaderValue → Prop where
  /-- Without calls everything stays. -/
  | done (values : List HeaderValue) : Assembled name [] values values
  /-- A number of custom headers are added one by one. -/
  | pairs {raws : List String} {calls : List HeaderCall} {values result : List HeaderValue}
    (rest : Assembled name (raws.map .pair ++ calls) values result) :
    Assembled name (.pairs raws :: calls) values result
  /-- A value is added behind those that are there. -/
  | added {call : HeaderCall} {calls : List HeaderCall} {value : HeaderValue}
    {values result : List HeaderValue} (adds : call.Adds name value)
    (rest : Assembled name calls (values ++ [value]) result) :
    Assembled name (call :: calls) values result
  /-- A value takes the place of all that are there. -/
  | set {call : HeaderCall} {calls : List HeaderCall} {value : HeaderValue}
    {values result : List HeaderValue} (sets : call.Sets name value)
    (rest : Assembled name calls [value] result) :
    Assembled name (call :: calls) values result
  /-- Any other call leaves the values under the name as they are. -/
  | kept {call : HeaderCall} {calls : List HeaderCall} {values result : List HeaderValue}
    (single : ∀ raws, call ≠ .pairs raws) (noneAdded : ∀ value, ¬ call.Adds name value)
    (noneSet : ∀ value, ¬ call.Sets name value) (rest : Assembled name calls values result) :
    Assembled name (call :: calls) values result

namespace HeaderMap

/-- The map after a call. -/
def call (m : HeaderMap) : HeaderCall → HeaderMap
  | .pair raw => m.addPair raw
  | .pairs raws => m.addPairs raws
  | .clientId token => m.setClientId token
  | .clientSecret token => m.setClientSecret token
  | .jumpDestination destination => m.addJumpDestination destination

/-- The map after a number of calls. -/
def after (m : HeaderMap) (calls : List HeaderCall) : HeaderMap := calls.foldl call m

theorem after_cons (m : HeaderMap) (c : HeaderCall) (calls : List HeaderCall) :
    m.after (c :: calls) = (m.call c).after calls := rfl

theorem after_append (m : HeaderMap) (calls more : List HeaderCall) :
    m.after (calls ++ more) = (m.after calls).after more := List.foldl_append

theorem after_pairs (m : HeaderMap) (raws : List String) :
    m.after (raws.map .pair) = m.addPairs raws := List.foldl_map

/-- The headers of a session are the result of calls: custom headers, then the service token, then
the target. -/
theorem forAccess_eq_after (pairs : List String) (id secret destination : Option String) :
    forAccess pairs id secret destination =
      empty.after (.pairs pairs :: ((id.map .clientId).toList ++
        (secret.map .clientSecret).toList ++ (destination.map .jumpDestination).toList)) := by
  cases id <;> cases secret <;> cases destination <;> rfl

/-! ### One call -/

theorem readPair?_eq_some_iff {raw : String} {name : HeaderName} {value : HeaderValue} :
    readPair? raw = some (name, value) ↔ HeaderCall.Adds (.pair raw) name value := by
  constructor
  · intro h
    unfold readPair? splitPair? at h
    cases hcut : Text.cutChar? ':' raw.toList with
    | none =>
      rw [hcut] at h
      cases h
    | some halves =>
      obtain ⟨before, after⟩ := halves
      obtain ⟨hdivided, hfirst⟩ := Text.cutChar?_eq_some_iff.mp hcut
      rw [hcut] at h
      dsimp only [Option.map_some] at h
      split at h
      · rename_i n v hname hvalue
        cases h
        obtain ⟨htext, hshown⟩ := HeaderValue.parse?_eq_some_iff.mp hvalue
        exact .pair hdivided hfirst (HeaderName.parse?_eq_some_iff.mp hname) htext hshown
      · cases h
  · intro h
    cases h with
    | pair hdivided hfirst hspelled htext hshown =>
      unfold readPair? splitPair?
      rw [Text.cutChar?_eq_some_iff.mpr ⟨hdivided, hfirst⟩]
      dsimp only [Option.map_some]
      rw [HeaderName.parse?_eq_some_iff.mpr hspelled,
        HeaderValue.parse?_eq_some_iff.mpr ⟨htext, hshown⟩]

/-- A call that adds a value does so under its name alone. -/
theorem call_adds (m : HeaderMap) {c : HeaderCall} {name : HeaderName} {value : HeaderValue}
    (h : c.Adds name value) : m.call c = m.append name value := by
  cases h with
  | pair hdivided hfirst hspelled htext hshown =>
    show m.addPair _ = _
    unfold addPair
    rw [readPair?_eq_some_iff.mpr (.pair hdivided hfirst hspelled htext hshown)]
  | jumpDestination hgiven htext hshown =>
    show m.addJumpDestination _ = _
    unfold addJumpDestination
    rw [if_neg (by simpa using hgiven), HeaderValue.parse?_eq_some_iff.mpr ⟨htext, hshown⟩]

theorem setToken_eq (m : HeaderMap) (name : HeaderName) {token : String} {value : HeaderValue}
    (given : token ≠ "") (text : value.text = token) (secret : value.sensitive = true) :
    m.setToken name token = m.replace name value := by
  unfold setToken
  rw [if_neg (by simpa using given), HeaderValue.parseSecret?_eq_some_iff.mpr ⟨text, secret⟩]

/-- A call that sets a value does so under its name alone. -/
theorem call_sets (m : HeaderMap) {c : HeaderCall} {name : HeaderName} {value : HeaderValue}
    (h : c.Sets name value) : m.call c = m.replace name value := by
  cases h with
  | clientId hgiven htext hsecret => exact m.setToken_eq _ hgiven htext hsecret
  | clientSecret hgiven htext hsecret => exact m.setToken_eq _ hgiven htext hsecret

theorem setToken_idle (m : HeaderMap) (name : HeaderName) {token : String}
    (h : ∀ value : HeaderValue, token ≠ "" → value.text = token → ¬ value.sensitive = true) :
    m.setToken name token = m := by
  unfold setToken
  split
  · rfl
  · rename_i hgiven
    cases hparse : HeaderValue.parseSecret? token with
    | none => rfl
    | some value =>
      obtain ⟨htext, hsecret⟩ := HeaderValue.parseSecret?_eq_some_iff.mp hparse
      exact absurd hsecret (h value (by simpa using hgiven) htext)

/-- A custom entry that is no header changes nothing. -/
theorem addPair_idle (m : HeaderMap) {raw : String}
    (h : ∀ name value, ¬ HeaderCall.Adds (.pair raw) name value) : m.addPair raw = m := by
  unfold addPair
  cases hread : readPair? raw with
  | none => rfl
  | some pair => exact absurd (readPair?_eq_some_iff.mp hread) (h pair.1 pair.2)

/-- Every other call changes nothing. -/
theorem call_idle (m : HeaderMap) {c : HeaderCall} (h : c.Idle) : m.call c = m := by
  cases c with
  | pair raw => exact m.addPair_idle fun name value => (h name value).1
  | pairs raws =>
    show raws.foldl addPair m = m
    induction raws with
    | nil => rfl
    | cons raw rest ih =>
      rw [List.foldl_cons, m.addPair_idle (h raw List.mem_cons_self)]
      exact ih fun raw hraw => h raw (List.mem_cons_of_mem _ hraw)
  | clientId token =>
    exact m.setToken_idle _ fun value hgiven htext hsecret =>
      (h _ value).2 (.clientId hgiven htext hsecret)
  | clientSecret token =>
    exact m.setToken_idle _ fun value hgiven htext hsecret =>
      (h _ value).2 (.clientSecret hgiven htext hsecret)
  | jumpDestination destination =>
    show m.addJumpDestination destination = m
    unfold addJumpDestination
    split
    · rfl
    · rename_i hgiven
      cases hparse : HeaderValue.parse? destination with
      | none => rfl
      | some value =>
        obtain ⟨htext, hshown⟩ := HeaderValue.parse?_eq_some_iff.mp hparse
        exact absurd (.jumpDestination (by simpa using hgiven) htext hshown) (h _ value).1

/-- A call that neither adds nor sets a value under a name leaves what stands there. -/
theorem valuesOf_call_kept (m : HeaderMap) {c : HeaderCall} {name : HeaderName}
    (single : ∀ raws, c ≠ .pairs raws) (noneAdded : ∀ value, ¬ c.Adds name value)
    (noneSet : ∀ value, ¬ c.Sets name value) : (m.call c).valuesOf name = m.valuesOf name := by
  by_cases hadds : ∃ other value, c.Adds other value
  · obtain ⟨other, value, hadds⟩ := hadds
    have hother : other ≠ name := by
      rintro rfl
      exact noneAdded value hadds
    rw [m.call_adds hadds, valuesOf_append, if_neg hother, List.append_nil]
  · by_cases hsets : ∃ other value, c.Sets other value
    · obtain ⟨other, value, hsets⟩ := hsets
      have hother : other ≠ name := by
        rintro rfl
        exact noneSet value hsets
      rw [m.call_sets hsets, valuesOf_replace, if_neg hother]
    · rw [m.call_idle (HeaderCall.idle_of_single single hadds hsets)]

/-! ### A number of calls -/

/-- One call in front of others. -/
theorem assembled_cons (m : HeaderMap) {c : HeaderCall} {calls : List HeaderCall}
    {name : HeaderName} {result : List HeaderValue} (single : ∀ raws, c ≠ .pairs raws)
    (rest : Assembled name calls ((m.call c).valuesOf name) result) :
    Assembled name (c :: calls) (m.valuesOf name) result := by
  by_cases hadds : ∃ value, c.Adds name value
  · obtain ⟨value, hadds⟩ := hadds
    rw [m.call_adds hadds, valuesOf_append, if_pos rfl] at rest
    exact .added hadds rest
  · by_cases hsets : ∃ value, c.Sets name value
    · obtain ⟨value, hsets⟩ := hsets
      rw [m.call_sets hsets, valuesOf_replace, if_pos rfl] at rest
      exact .set hsets rest
    · have noneAdded := not_exists.mp hadds
      have noneSet := not_exists.mp hsets
      rw [m.valuesOf_call_kept single noneAdded noneSet] at rest
      exact .kept single noneAdded noneSet rest

/-- Custom headers in front of other calls. -/
theorem assembled_pairs (m : HeaderMap) (raws : List String) {calls : List HeaderCall}
    {name : HeaderName} {result : List HeaderValue}
    (rest : Assembled name calls ((m.addPairs raws).valuesOf name) result) :
    Assembled name (raws.map .pair ++ calls) (m.valuesOf name) result := by
  induction raws generalizing m with
  | nil => exact rest
  | cons raw raws ih => exact m.assembled_cons nofun (ih (m.addPair raw) rest)

/-- What stands under a name after calls is what they amount to. -/
theorem assembled_after (m : HeaderMap) (calls : List HeaderCall) (name : HeaderName) :
    Assembled name calls (m.valuesOf name) ((m.after calls).valuesOf name) := by
  induction calls generalizing m with
  | nil => exact .done _
  | cons c calls ih =>
    rw [after_cons]
    cases c with
    | pairs raws => exact .pairs (m.assembled_pairs raws (ih (m.addPairs raws)))
    | _ => exact m.assembled_cons nofun (ih _)

/-- Calls amount to one list of values, whichever map they begin with. -/
theorem valuesOf_of_assembled {name : HeaderName} {calls : List HeaderCall}
    {values result : List HeaderValue} (h : Assembled name calls values result) {m : HeaderMap}
    (hm : m.valuesOf name = values) : (m.after calls).valuesOf name = result := by
  induction h generalizing m with
  | done values => exact hm
  | @pairs raws calls values result rest ih =>
    rw [after_cons, ← ih hm, after_append, after_pairs]
    rfl
  | added adds rest ih =>
    refine ih ?_
    rw [m.call_adds adds, valuesOf_append, if_pos rfl, hm]
  | set sets rest ih =>
    refine ih ?_
    rw [m.call_sets sets, valuesOf_replace, if_pos rfl]
  | kept single noneAdded noneSet rest ih =>
    refine ih ?_
    rw [m.valuesOf_call_kept single noneAdded noneSet, hm]

/-- A secret among the values was there before, or is a token that was set. -/
theorem secret_of_assembled {name : HeaderName} {calls : List HeaderCall}
    {values result : List HeaderValue} (h : Assembled name calls values result)
    {value : HeaderValue} (hmem : value ∈ result) (hsecret : value.sensitive = true) :
    value ∈ values ∨ ∃ c ∈ calls, c.Sets name value := by
  have later {c : HeaderCall} {calls : List HeaderCall}
      (h : ∃ c ∈ calls, c.Sets name value) : ∃ d ∈ c :: calls, d.Sets name value := by
    obtain ⟨d, hd, hsets⟩ := h
    exact ⟨d, List.mem_cons_of_mem _ hd, hsets⟩
  induction h with
  | done values => exact .inl hmem
  | pairs rest ih =>
    refine (ih hmem).imp_right ?_
    rintro ⟨c, hc, hsets⟩
    rcases List.mem_append.mp hc with hpair | hrest
    · -- no custom header sets anything
      obtain ⟨raw, -, rfl⟩ := List.mem_map.mp hpair
      cases hsets
    · exact ⟨c, List.mem_cons_of_mem _ hrest, hsets⟩
  | added adds rest ih =>
    rcases ih hmem with hbefore | hset
    · rcases List.mem_append.mp hbefore with hold | hnew
      · exact .inl hold
      · rw [List.mem_singleton.mp hnew, adds.shown] at hsecret
        cases hsecret
    · exact .inr (later hset)
  | @set c calls token values result sets rest ih =>
    rcases ih hmem with hnew | hset
    · rw [List.mem_singleton.mp hnew]
      exact .inr ⟨c, List.mem_cons_self, sets⟩
    · exact .inr (later hset)
  | kept single noneAdded noneSet rest ih => exact (ih hmem).imp_right later

/-- After any calls a map has under each name what the calls amount to there: custom headers and
targets are added behind what stands under their own name, a token takes the place of all that
stands under its own, and everything else stays as it is, order and secrecy included. No value but
a token becomes a secret, and a call that gives no header changes nothing at all. The headers of a
session come about in this way. -/
theorem after_assembled (m : HeaderMap) (calls : List HeaderCall) :
    (∀ name result,
      Assembled name calls (m.valuesOf name) result ↔ (m.after calls).valuesOf name = result) ∧
    (∀ name, ∀ value ∈ (m.after calls).valuesOf name, value.sensitive = true →
      value ∈ m.valuesOf name ∨ ∃ c ∈ calls, c.Sets name value) ∧
    (∀ c : HeaderCall, c.Idle → m.call c = m) ∧
    ∀ pairs id secret destination, forAccess pairs id secret destination =
      empty.after (.pairs pairs :: ((id.map .clientId).toList ++
        (secret.map .clientSecret).toList ++ (destination.map .jumpDestination).toList)) := by
  refine ⟨fun name result => ⟨fun h => valuesOf_of_assembled h rfl, ?_⟩, ?_, ?_, ?_⟩
  · rintro rfl
    exact m.assembled_after calls name
  · intro name value hmem hsecret
    exact secret_of_assembled (m.assembled_after calls name) hmem hsecret
  · intro c hidle
    exact m.call_idle hidle
  · exact forAccess_eq_after

/-- A token takes the place of what a custom header has put under its name, and a custom header that
comes later is added behind it. -/
example :
    let calls : List HeaderCall :=
      [.pair "CF-Access-Client-Id: first", .clientId "token", .pair "no header",
        .pair " cf-access-client-id :  last "]
    ((empty.after calls).valuesOf .clientId).map (fun value => (value.text, value.sensitive)) =
      [("token", true), ("last", false)] := by
  decide +kernel

end HeaderMap

end Carrier
