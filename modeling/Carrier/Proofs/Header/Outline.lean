import Carrier.Header.Access
import Mathlib.Data.List.Forall2

/-!
# What shows of a service token

A token is told from another by what becomes of it: an empty one sets no header, one that is no
header value is left out, and one that is not written with visible characters keeps a request from
being sent. Beyond that its text is not to matter.

- `ServiceToken.IsText`: the texts that tokens are meant to be.
- `ServiceToken.outline`: one text for all tokens that come to the same.
- `ServiceToken.outline_append`: the outline of two texts in a row is that of their outlines.
- `HeaderValue.outlined`, `HeaderMap.outlined`: headers with the secrets among them outlined.
- `HeaderMap.forAccess_outlined`: the headers of a session with outlined tokens.
- `HeaderMap.entriesAlike_of_outlined`: where two maps may differ that have one outline.
-/

namespace Carrier

/-! ### Tokens -/

/-- Whether a text is written with visible ASCII characters, spaces and tabs, as far as it is a
header value. -/
def isVisibleText (s : String) : Bool := s.toList.all fun c => c.toNat < 0x7F

namespace ServiceToken

/-- A text that a token is meant to be: visible ASCII characters, spaces and tabs, at least one. -/
structure IsText (t : String) : Prop where
  /-- There is a character. -/
  nonempty : t ≠ ""
  /-- It can be the value of a header. -/
  value : isHeaderValue t = true
  /-- It can be sent. -/
  visible : isVisibleText t = true

theorem isText_iff (t : String) :
    IsText t ↔ t ≠ "" ∧ isHeaderValue t = true ∧ isVisibleText t = true := by
  constructor
  · intro h
    exact ⟨h.nonempty, h.value, h.visible⟩
  · rintro ⟨hne, hvalue, hvisible⟩
    exact ⟨hne, hvalue, hvisible⟩

instance (t : String) : Decidable (IsText t) := decidable_of_iff' _ (isText_iff t)

/-- Two tokens that are the same, or both as they are meant to be. -/
def Alike (t u : String) : Prop := t = u ∨ IsText t ∧ IsText u

/-- One text for all tokens that come to the same. -/
def outline (t : String) : String :=
  if t.isEmpty then "" else if isHeaderValue t then if isVisibleText t then "*" else "é" else "\n"

theorem outline_of_isText {t : String} (h : IsText t) : outline t = "*" := by
  have hne : t.isEmpty = false := by simpa using h.nonempty
  simp [outline, hne, h.value, h.visible]

theorem Alike.outline_eq {t u : String} (h : Alike t u) : outline t = outline u := by
  obtain rfl | ⟨ht, hu⟩ := h
  · rfl
  · rw [outline_of_isText ht, outline_of_isText hu]

/-- The outline of a text is empty, is a value and is visible where the text is. -/
theorem outline_cases (t : String) :
    (t.isEmpty = true ∧ outline t = "") ∨
    (t.isEmpty = false ∧ isHeaderValue t = true ∧ isVisibleText t = true ∧ outline t = "*") ∨
    (t.isEmpty = false ∧ isHeaderValue t = true ∧ isVisibleText t = false ∧ outline t = "é") ∨
    (t.isEmpty = false ∧ isHeaderValue t = false ∧ outline t = "\n") := by
  cases hempty : t.isEmpty with
  | true => simp [outline, hempty]
  | false =>
    cases hvalue : isHeaderValue t with
    | false => simp [outline, hempty, hvalue]
    | true => cases hvisible : isVisibleText t <;> simp [outline, hempty, hvalue, hvisible]

@[simp] theorem isEmpty_outline (t : String) : (outline t).isEmpty = t.isEmpty := by
  rcases outline_cases t with ⟨he, h⟩ | ⟨he, -, -, h⟩ | ⟨he, -, -, h⟩ | ⟨he, -, h⟩ <;>
    rw [h, he] <;> decide +kernel

@[simp] theorem isHeaderValue_outline (t : String) :
    isHeaderValue (outline t) = isHeaderValue t := by
  rcases outline_cases t with ⟨he, h⟩ | ⟨-, hv, -, h⟩ | ⟨-, hv, -, h⟩ | ⟨-, hv, h⟩
  · rw [h, String.isEmpty_iff.mp he]
  all_goals rw [h, hv]; decide +kernel

theorem isVisibleText_outline {t : String} (h : isHeaderValue t = true) :
    isVisibleText (outline t) = isVisibleText t := by
  rcases outline_cases t with ⟨he, ho⟩ | ⟨-, -, hs, ho⟩ | ⟨-, -, hs, ho⟩ | ⟨-, hv, -⟩
  · rw [ho, String.isEmpty_iff.mp he]
  · rw [ho, hs]; decide +kernel
  · rw [ho, hs]; decide +kernel
  · rw [h] at hv; cases hv

/-- An outline tells as much as the three questions that are asked of a token. -/
theorem outline_congr {t u : String} (hempty : t.isEmpty = u.isEmpty)
    (hvalue : isHeaderValue t = isHeaderValue u)
    (hvisible : isHeaderValue t = true → isVisibleText t = isVisibleText u) :
    outline t = outline u := by
  cases hv : isHeaderValue t with
  | true => simp only [outline, ← hempty, ← hvalue, hv, hvisible hv]
  | false => simp only [outline, ← hempty, ← hvalue, hv, Bool.false_eq_true, if_false]

theorem isHeaderValue_append (t u : String) :
    isHeaderValue (t ++ u) = (isHeaderValue t && isHeaderValue u) := by
  simp [isHeaderValue, List.all_append]

theorem isVisibleText_append (t u : String) :
    isVisibleText (t ++ u) = (isVisibleText t && isVisibleText u) := by
  simp [isVisibleText, List.all_append]

/-- The outline of two texts in a row is that of their outlines. -/
theorem outline_append (t u : String) : outline (t ++ u) = outline (outline t ++ outline u) := by
  have hempty (a b : String) : (a ++ b).isEmpty = (a.isEmpty && b.isEmpty) := by
    rw [Bool.eq_iff_iff]
    simp [String.append_eq_empty_iff]
  refine outline_congr ?_ ?_ fun h => ?_
  · rw [hempty, hempty, isEmpty_outline, isEmpty_outline]
  · rw [isHeaderValue_append, isHeaderValue_append, isHeaderValue_outline, isHeaderValue_outline]
  · rw [isHeaderValue_append, Bool.and_eq_true] at h
    rw [isVisibleText_append, isVisibleText_append, isVisibleText_outline h.1,
      isVisibleText_outline h.2]

end ServiceToken

/-! ### Headers -/

namespace HeaderName

/-- Whether a name carries a part of a service token. -/
def isToken (name : HeaderName) : Bool := name == clientId || name == clientSecret

end HeaderName

namespace HeaderValue

/-- A value with its text outlined. -/
def outlined (v : HeaderValue) : HeaderValue where
  text := ServiceToken.outline v.text
  sensitive := v.sensitive
  valid := (ServiceToken.isHeaderValue_outline v.text).trans v.valid

/-- A value that is sent if and only if its outline is. -/
@[simp] theorem isVisible_outlined (v : HeaderValue) : v.outlined.isVisible = v.isVisible :=
  ServiceToken.isVisibleText_outline v.valid

theorem sensitive_of_parse? {t : String} {v : HeaderValue} (h : parse? t = some v) :
    v.sensitive = false := by
  simp only [parse?] at h
  split at h
  · rw [← Option.some.inj h]
  · cases h

theorem sensitive_of_parseSecret? {t : String} {v : HeaderValue} (h : parseSecret? t = some v) :
    v.sensitive = true := by
  simp only [parseSecret?] at h
  split at h
  · rw [← Option.some.inj h]
  · cases h

/-- A secret with its text outlined is what the outline of its text is as a secret. -/
theorem parseSecret?_outline (t : String) :
    parseSecret? (ServiceToken.outline t) = (parseSecret? t).map outlined := by
  cases h : isHeaderValue t with
  | true => simp [parseSecret?, h, outlined]
  | false => simp [parseSecret?, h]

end HeaderValue

namespace HeaderMap

/-- An entry with its value outlined, if it is a secret under a name for tokens. -/
def outlinedEntry (e : HeaderName × HeaderValue) : HeaderName × HeaderValue :=
  (e.1, if e.1.isToken && e.2.sensitive then e.2.outlined else e.2)

/-- A map with the secrets under the names for tokens outlined. -/
def outlined (m : HeaderMap) : HeaderMap := ⟨m.entries.map outlinedEntry⟩

theorem outlinedEntry_of_other {e : HeaderName × HeaderValue} (h : e.1.isToken = false) :
    outlinedEntry e = e := by
  simp [outlinedEntry, h]

@[simp] theorem isVisible_outlinedEntry (e : HeaderName × HeaderValue) :
    (outlinedEntry e).2.isVisible = e.2.isVisible := by
  simp only [outlinedEntry]
  split <;> simp

/-- What is chosen by its name is chosen from the outline as well. -/
theorem filter_map_outlinedEntry (p : HeaderName → Bool) (es : List (HeaderName × HeaderValue)) :
    (es.map outlinedEntry).filter (fun e => p e.1) =
      (es.filter fun e => p e.1).map outlinedEntry := by
  rw [List.filter_map]
  rfl

@[simp] theorem empty_outlined : empty.outlined = empty := rfl

/-- A value that is no secret stays as it is. -/
theorem append_outlined (m : HeaderMap) (name : HeaderName) {value : HeaderValue}
    (h : value.sensitive = false) :
    (m.append name value).outlined = m.outlined.append name value := by
  simp [append, outlined, outlinedEntry, h]

theorem appendAll_outlined (m n : HeaderMap) :
    (m.appendAll n).outlined = m.outlined.appendAll n.outlined := by
  simp [appendAll, outlined]

theorem replace_outlined (m : HeaderMap) (name : HeaderName) (value : HeaderValue) :
    (m.replace name value).outlined =
      m.outlined.replace name (outlinedEntry (name, value)).2 := by
  have hkept := filter_map_outlinedEntry (fun other => decide (other ≠ name)) m.entries
  simp only [replace, outlined, List.map_append, List.map_cons, List.map_nil, mk.injEq]
  rw [hkept]
  rfl

/-- Under a name that carries no token the outline has the values of the map. -/
theorem valuesOf_outlined (m : HeaderMap) {name : HeaderName} (h : name.isToken = false) :
    m.outlined.valuesOf name = m.valuesOf name := by
  have hchosen := filter_map_outlinedEntry (fun other => decide (other = name)) m.entries
  simp only [valuesOf, outlined]
  rw [hchosen, List.map_map]
  refine List.map_congr_left fun e he => ?_
  have hname : e.1 = name := of_decide_eq_true (List.mem_filter.mp he).2
  rw [Function.comp_apply, outlinedEntry_of_other (hname ▸ h)]

/-! ### The headers of a session -/

theorem sensitive_of_readPair? {raw : String} {pair : HeaderName × HeaderValue}
    (h : readPair? raw = some pair) : pair.2.sensitive = false := by
  simp only [readPair?] at h
  split at h
  · cases h
  · split at h
    · rename_i hvalue
      rw [← Option.some.inj h]
      exact HeaderValue.sensitive_of_parse? hvalue
    · cases h

/-- Headers that are no secrets are the same in the outline. -/
theorem addPairs_outlined (m : HeaderMap) (raws : List String) :
    (m.addPairs raws).outlined = m.outlined.addPairs raws := by
  induction raws generalizing m with
  | nil => rfl
  | cons raw rest ih =>
    have hone : (m.addPair raw).outlined = m.outlined.addPair raw := by
      simp only [addPair]
      cases hread : readPair? raw with
      | none => rfl
      | some pair =>
        exact append_outlined m pair.1 (sensitive_of_readPair? hread)
    rw [show m.addPairs (raw :: rest) = (m.addPair raw).addPairs rest from rfl, ih, hone]
    rfl

/-- Setting an outlined token is setting the token in the outline. -/
theorem setToken_outlined (m : HeaderMap) {name : HeaderName} (h : name.isToken = true)
    (t : String) :
    (m.setToken name t).outlined = m.outlined.setToken name (ServiceToken.outline t) := by
  simp only [setToken, ServiceToken.isEmpty_outline, HeaderValue.parseSecret?_outline]
  split
  · rfl
  · cases hparse : HeaderValue.parseSecret? t with
    | none => rfl
    | some value =>
      have hsecret := HeaderValue.sensitive_of_parseSecret? hparse
      simp [replace_outlined, outlinedEntry, h, hsecret]

theorem addJumpDestination_outlined (m : HeaderMap) (destination : String) :
    (m.addJumpDestination destination).outlined = m.outlined.addJumpDestination destination := by
  simp only [addJumpDestination]
  split
  · rfl
  · cases hparse : HeaderValue.parse? destination with
    | none => rfl
    | some value => exact append_outlined m _ (HeaderValue.sensitive_of_parse? hparse)

/-- The headers of a session with outlined tokens are the outline of its headers. -/
theorem forAccess_outlined (pairs : List String) (id secret destination : Option String) :
    (forAccess pairs id secret destination).outlined =
      forAccess pairs (id.map ServiceToken.outline) (secret.map ServiceToken.outline)
        destination := by
  have hid : HeaderName.clientId.isToken = true := by decide +kernel
  have hsecret : HeaderName.clientSecret.isToken = true := by decide +kernel
  have hset (m : HeaderMap) (set : HeaderMap → String → HeaderMap) (t : Option String)
      (f : String → String) (hone : ∀ t, (set m t).outlined = set m.outlined (f t)) :
      (t.elim m (set m)).outlined = (t.map f).elim m.outlined (set m.outlined) := by
    cases t with
    | none => rfl
    | some t => exact hone t
  -- pairs first, then the token, then the destination, which no step after it changes
  simp only [forAccess]
  cases destination with
  | none =>
    simp only [Option.elim_none]
    rw [hset _ setClientSecret secret _ fun t => setToken_outlined _ hsecret t,
      hset _ setClientId id _ fun t => setToken_outlined _ hid t, addPairs_outlined, empty_outlined]
  | some destination =>
    simp only [Option.elim_some]
    rw [addJumpDestination_outlined,
      hset _ setClientSecret secret _ fun t => setToken_outlined _ hsecret t,
      hset _ setClientId id _ fun t => setToken_outlined _ hid t, addPairs_outlined, empty_outlined]

/-! ### Maps with one outline -/

/-- Two headers that are the same, or secrets under a name for tokens. -/
structure EntryAlike (e f : HeaderName × HeaderValue) : Prop where
  /-- The names are the same. -/
  name : e.1 = f.1
  /-- The values are the same, or both are secrets under a name for tokens. -/
  value : e.2 = f.2 ∨ e.1.isToken = true ∧ e.2.sensitive = true ∧ f.2.sensitive = true

theorem EntryAlike.of_outlinedEntry {e f : HeaderName × HeaderValue}
    (h : outlinedEntry e = outlinedEntry f) : EntryAlike e f := by
  obtain ⟨hname, hvalue⟩ := Prod.mk.inj h
  refine ⟨hname, ?_⟩
  have hflag : (outlinedEntry e).2.sensitive = e.2.sensitive := by
    simp only [outlinedEntry]
    split <;> rfl
  have hflag' : (outlinedEntry f).2.sensitive = f.2.sensitive := by
    simp only [outlinedEntry]
    split <;> rfl
  have hsecret : e.2.sensitive = f.2.sensitive := by rw [← hflag, ← hflag', h]
  rw [← hname, ← hsecret] at hvalue
  cases hshown : e.1.isToken && e.2.sensitive with
  | true =>
    obtain ⟨htoken, hsensitive⟩ := Bool.and_eq_true_iff.mp hshown
    exact Or.inr ⟨htoken, hsensitive, hsecret ▸ hsensitive⟩
  | false =>
    rw [hshown] at hvalue
    exact Or.inl hvalue

/-- Maps with one outline have the same entries but for the secrets under the names for tokens. -/
theorem entriesAlike_of_outlined {es fs : List (HeaderName × HeaderValue)}
    (h : es.map outlinedEntry = fs.map outlinedEntry) : List.Forall₂ EntryAlike es fs := by
  rw [← List.forall₂_eq_eq_eq, List.forall₂_map_left_iff, List.forall₂_map_right_iff] at h
  exact h.imp fun _ _ => EntryAlike.of_outlinedEntry

end HeaderMap

end Carrier
