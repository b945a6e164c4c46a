import Carrier.Proofs.Override.Reading

/-!
# The grammar of overrides

A text is an override when it is not empty and has at most two colons, unless it has two and begins
with one of them. Nothing of an accepted text is lost: its fields stand in the origin that is dialed
and in the name that is presented, and no field has a colon by which it could be taken for two. What
is shown of an override has its fields too, between colons of which there is a different number for
each number of fields.

- `Override.Admissible`: the texts that are accepted.
- `Override.recover`: the text of an override, told from its origin and its terms of TLS.
- `Override.Keeps`: what an override keeps of its text.
- `Override.fields_shown`: the pieces of what is shown.
- `Override.parse_exact`: acceptance, recovery, and that no two overrides are shown alike.
-/

namespace Carrier

namespace Override

/-! ### Accepted texts -/

/-- A text that is not empty and has at most two colons, none of which it begins with where there
are two. -/
structure Admissible (raw : String) : Prop where
  /-- There is something written. -/
  nonempty : raw ≠ ""
  /-- There are at most two colons. -/
  few : raw.toList.count ':' ≤ 2
  /-- Of three fields the first is not empty. -/
  named : raw.toList.count ':' = 2 → raw.toList.head? ≠ some ':'

/-- An override is written with one colon less than it has fields. -/
theorem count_of_parse {raw : String} {o : Override} (h : parse raw = .ok o) :
    raw.toList.count ':' + 1 = o.parts.length := by
  have hraw : raw ≠ "" := (parse_eq_ok.mp h).1
  rw [← (parse_of_ne_empty hraw).mp h, List.length_map, Text.length_fields]

theorem Admissible.of_parse {raw : String} {o : Override} (h : parse raw = .ok o) :
    Admissible raw := by
  obtain ⟨hraw, hwritten, hfree⟩ := parse_eq_ok.mp h
  have hcount := count_of_parse h
  cases o with
  | «at» host =>
    have hcolons : raw.toList.count ':' = 0 := Nat.succ.inj hcount
    exact ⟨hraw, by omega, by omega⟩
  | atPort host port =>
    have hcolons : raw.toList.count ':' = 1 := Nat.succ.inj hcount
    exact ⟨hraw, by omega, by omega⟩
  | presenting name port host named =>
    have hcolons : raw.toList.count ':' = 2 := Nat.succ.inj hcount
    refine ⟨hraw, by omega, fun _ => ?_⟩
    -- the text begins with the name, which has characters but no colon
    have hname : ':' ∉ name.toList := hfree name List.mem_cons_self
    cases hchars : name.toList with
    | nil => exact absurd (String.toList_eq_nil_iff.mp hchars) named
    | cons c rest =>
      rw [hchars, List.mem_cons, not_or] at hname
      simp [hwritten, written, hchars, Ne.symm hname.1]

theorem Admissible.parse {raw : String} (h : Admissible raw) : ∃ o, Override.parse raw = .ok o := by
  have hlength := Text.length_fields ':' raw.toList
  have hfew := h.few
  -- there are as many fields as one of the forms has
  obtain ⟨o, ho⟩ : ∃ o : Override,
      (Text.fields ':' raw.toList).map String.ofList = o.parts := by
    match hfields : Text.fields ':' raw.toList with
    | [] => simp [hfields] at hlength
    | [host] => exact ⟨.at (String.ofList host), rfl⟩
    | [host, port] => exact ⟨.atPort (String.ofList host) (String.ofList port), rfl⟩
    | [name, port, host] =>
      have hcount : raw.toList.count ':' = 2 := by
        rw [hfields] at hlength
        exact (Nat.succ.inj hlength).symm
      have hwhole := (Text.fields_eq_iff.mp hfields).2.2
      have hname : String.ofList name ≠ "" := by
        intro hempty
        have hnil : name = [] := String.ofList_injective hempty
        refine h.named hcount ?_
        rw [← hwhole, hnil]
        rfl
      exact ⟨.presenting (String.ofList name) (String.ofList port) (String.ofList host) hname, rfl⟩
    | _ :: _ :: _ :: _ :: _ =>
      rw [hfields] at hlength
      simp only [List.length_cons] at hlength
      omega
  exact ⟨o, (parse_of_ne_empty h.nonempty).mpr ho⟩

/-- A text that is refused is what the refusal repeats. -/
theorem parse_eq_error {raw : String} {cause : SetupError} (h : parse raw = .error cause) :
    cause = .invalidOverride raw := by
  unfold parse at h
  split at h
  · cases h
    rfl
  · split at h
    · cases h
    · cases h
    · split at h
      · cases h
      · cases h
        rfl
    · cases h
      rfl

/-! ### What an override keeps -/

/-- The text of an override, told from its origin and its terms of TLS: the origin without its
scheme, or the name that is presented, the port and the host. -/
def recover (origin : String) (tls : Option TlsOverride) : String :=
  let place := origin.toList.drop "https://".length
  match tls, Text.cutChar? ':' place with
  | some tls, some (host, port) =>
    tls.serverName ++ ":" ++ String.ofList port ++ ":" ++ String.ofList host
  | _, _ => String.ofList place

theorem drop_scheme (place : String) :
    ("https://" ++ place).toList.drop "https://".length = place.toList := by
  rw [String.toList_append]
  rfl

theorem recover_eq_written {o : Override} (hfree : ∀ part ∈ o.parts, ':' ∉ part.toList) :
    recover o.origin o.tls = o.written := by
  cases o with
  | «at» host =>
    show String.ofList (("https://" ++ host).toList.drop "https://".length) = host
    rw [drop_scheme, String.ofList_toList]
  | atPort host port =>
    have horigin : (atPort host port).origin = "https://" ++ (host ++ ":" ++ port) := by
      simp only [origin, String.append_assoc]
    unfold recover
    rw [horigin, drop_scheme]
    show String.ofList (host ++ ":" ++ port).toList = host ++ ":" ++ port
    rw [String.ofList_toList]
  | presenting name port host named =>
    have horigin : (presenting name port host named).origin
        = "https://" ++ (host ++ ":" ++ port) := by
      simp only [origin, String.append_assoc]
    have hhost : ':' ∉ host.toList := hfree host (by simp [parts])
    -- the host has no colon, so that the first one of the place is the one in front of the port
    have hcut : Text.cutChar? ':' (host ++ ":" ++ port).toList
        = some (host.toList, port.toList) := by
      rw [Text.cutChar?_eq_some_iff]
      refine ⟨?_, hhost⟩
      rw [String.toList_append, String.toList_append, List.append_assoc]
      rfl
    unfold recover
    rw [horigin, drop_scheme]
    dsimp only [tls]
    rw [hcut]
    simp only [String.ofList_toList, written]

/-- What an override keeps of its text. -/
structure Keeps (raw : String) (o : Override) : Prop where
  /-- A text with three fields is one that brings terms of TLS. -/
  arity : o.tls.isSome ↔ raw.toList.count ':' = 2
  /-- Any other text is the origin without its scheme. -/
  plain : o.tls = none → o.origin = "https://" ++ raw
  /-- The fields of a text with three are the name that is presented, and port and host of the
  origin. -/
  presenting : ∀ tls, o.tls = some tls → ∃ port host,
    Presents raw tls.serverName port host ∧ o.origin = "https://" ++ host ++ ":" ++ port
  /-- Origin and terms of TLS together give the text back. -/
  recovered : recover o.origin o.tls = raw

theorem Keeps.of_parse {raw : String} {o : Override} (h : parse raw = .ok o) : Keeps raw o := by
  obtain ⟨hraw, hwritten, hfree⟩ := parse_eq_ok.mp h
  have hcount := count_of_parse h
  have hrecovered := (recover_eq_written hfree).trans hwritten.symm
  cases o with
  | «at» host =>
    have hcolons : raw.toList.count ':' = 0 := Nat.succ.inj hcount
    refine ⟨by simp [hcolons, tls], fun _ => ?_, fun terms hterms => ?_, hrecovered⟩
    · rw [hwritten]
      rfl
    · cases hterms
  | atPort host port =>
    have hcolons : raw.toList.count ':' = 1 := Nat.succ.inj hcount
    refine ⟨by simp [hcolons, tls], fun _ => ?_, fun terms hterms => ?_, hrecovered⟩
    · simp only [hwritten, written, origin, String.append_assoc]
    · cases hterms
  | presenting name port host named =>
    have hcolons : raw.toList.count ':' = 2 := Nat.succ.inj hcount
    refine ⟨by simp [hcolons, tls], fun hterms => ?_, fun terms hterms => ?_, hrecovered⟩
    · cases hterms
    · cases hterms
      exact ⟨port, host, (parse_eq_presenting named).mp h, rfl⟩

/-! ### What is shown -/

/-- The pieces of what is shown, besides the scheme. -/
def shownParts : Override → List (List Char)
  | .at host => ["//".toList ++ host.toList]
  | .atPort host port => ["//".toList ++ host.toList, port.toList]
  | .presenting name port host _ =>
    ["//".toList ++ host.toList, port.toList ++ " (sni".toList, ' ' :: (name.toList ++ [')'])]

/-- What is shown parts at its colons into the scheme and the fields. -/
theorem fields_shown {o : Override} (hfree : ∀ part ∈ o.parts, ':' ∉ part.toList) :
    Text.fields ':' o.shown.toList = "https".toList :: o.shownParts := by
  rw [Text.fields_eq_iff]
  cases o with
  | «at» host =>
    have hhost : ':' ∉ host.toList := hfree host (by simp [parts])
    refine ⟨List.cons_ne_nil _ _, ?_, ?_⟩
    · simp [shownParts, hhost]
    · simp [shownParts, shown, tls, origin]
  | atPort host port =>
    have hhost : ':' ∉ host.toList := hfree host (by simp [parts])
    have hport : ':' ∉ port.toList := hfree port (by simp [parts])
    refine ⟨List.cons_ne_nil _ _, ?_, ?_⟩
    · simp [shownParts, hhost, hport]
    · simp [shownParts, shown, tls, origin]
  | presenting name port host named =>
    have hname : ':' ∉ name.toList := hfree name (by simp [parts])
    have hport : ':' ∉ port.toList := hfree port (by simp [parts])
    have hhost : ':' ∉ host.toList := hfree host (by simp [parts])
    refine ⟨List.cons_ne_nil _ _, ?_, ?_⟩
    · simp [shownParts, hname, hport, hhost]
    · simp [shownParts, shown, tls, origin]

theorem shownParts_injective {o o' : Override} (h : o.shownParts = o'.shownParts) : o = o' := by
  cases o <;> cases o' <;> simp_all [shownParts, String.toList_inj]

/-- Overrides that are read from texts are shown alike only if they are the same. -/
theorem eq_of_shown_eq {raw raw' : String} {o o' : Override} (h : parse raw = .ok o)
    (h' : parse raw' = .ok o') (hshown : o.shown = o'.shown) : o = o' := by
  have hfields := fields_shown (parse_eq_ok.mp h).2.2
  have hfields' := fields_shown (parse_eq_ok.mp h').2.2
  rw [hshown, hfields'] at hfields
  exact (shownParts_injective (List.cons.inj hfields).2).symm

/-! ### The grammar -/

/-- Texts are accepted exactly where they are admissible, a refusal repeats the text, what is
accepted gives its text back, and no two texts that are accepted are shown alike. -/
theorem parse_exact :
    (∀ raw, (∃ o, parse raw = .ok o) ↔ Admissible raw) ∧
      (∀ raw cause, parse raw = .error cause → cause = .invalidOverride raw) ∧
      (∀ raw o, parse raw = .ok o → Keeps raw o) ∧
      ∀ raw raw' o o', parse raw = .ok o → parse raw' = .ok o' → o.shown = o'.shown →
        raw = raw' := by
  refine ⟨fun raw => ⟨?_, Admissible.parse⟩, fun _ _ => parse_eq_error, fun _ _ => Keeps.of_parse,
    ?_⟩
  · rintro ⟨o, h⟩
    exact Admissible.of_parse h
  · intro raw raw' o o' h h' hshown
    have hsame := eq_of_shown_eq h h' hshown
    rw [(parse_eq_ok.mp h).2.1, (parse_eq_ok.mp h').2.1, hsame]

/-- A host that ends like what is shown of a name is still another override than the name. -/
example :
    (parse "a:443 (sni").toOption.map shown = some "https://a:443 (sni" ∧
      (parse "b:443:a").toOption.map shown = some "https://a:443 (sni: b)" := by
  decide +kernel

end Override

end Carrier
