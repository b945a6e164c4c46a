import Carrier.Proofs.Config.Soundness
import Carrier.Proofs.Url.Case
import Carrier.Proofs.Url.Listener
import Carrier.Proofs.Url.Spelling

/-!
# Two listeners in one place

A listener may be spelled in many ways: as a URL with any scheme or without one, with credentials, a
path and blanks around it. Two listeners with the same port and the same host are taken for the same
where their hosts are brought into the same form. With a special scheme that is a normal form; a
host without one is kept as it is written, in the case in which it is written.

- `Listener.Names`: which host and port a listener names, however it is spelled.
- `Listener.exists_names`: every listener names a host and a port.
- `Host.Stable`: hosts that are the same with a special scheme and without one.
- `Listener.Alike`: spellings of hosts that are brought into the same form.
- `Config.validate_duplicate`: two listeners with the same host and port are refused.
-/

namespace Carrier

/-! ### Hosts with different schemes -/

/-- Hosts that are the same with a special scheme and without one. -/
inductive Host.Stable : List Char → Prop where
  /-- An address in brackets. -/
  | bracketed {s : List Char} : Stable ('[' :: s)
  /-- A host that is written as a special scheme leaves it. -/
  | normal {s : List Char} {host : Host} (read : parse s = .ok host)
    (kept : host.shown.toList = s) : Stable s

namespace Listener

open Url

/-- `Names raw kind host port`: a listener names a host, with a scheme of some kind, and a port. -/
structure Names (raw : String) (kind : SchemeKind) (host : List Char) (port : Nat) : Prop where
  /-- The text is a listener. -/
  accepted : ∃ address, listenerAddress raw = .ok address
  /-- The host is spelled in it, and the port is too or is implied by the scheme. -/
  spelled : ∃ scheme credentials portText rest written, SchemeKind.of scheme = kind ∧
    authorityOf? (url raw) = some (scheme, credentials ++ (host ++ (portText ++ rest))) ∧
      Spelled kind credentials host portText rest written ∧
        written.or (defaultPort? scheme) = some port

/-- `Alike kind kind' host host'`: hosts that are the same but for the case of letters are brought
into the same form. -/
inductive Alike (kind kind' : SchemeKind) (host host' : List Char) : Prop where
  /-- That of special schemes. -/
  | normal (first : kind.isSpecial = true ∨ Host.Stable host)
    (second : kind'.isSpecial = true ∨ Host.Stable host')
  /-- They are written in the same way, and both are kept so. -/
  | kept (first : kind.isSpecial = false) (second : kind'.isSpecial = false) (same : host = host')

variable {raw raw' : String} {kind kind' : SchemeKind} {host host' : List Char} {port : Nat}

/-- Every listener names a host and a port. -/
theorem exists_names {address : String} (h : listenerAddress raw = .ok address) :
    ∃ kind host port, Names raw kind host port := by
  obtain ⟨-, u, hostText, port, hparse, hhost, hport, -⟩ := listenerAddress_eq_ok.mp h
  obtain ⟨scheme, credentials, host, portText, rest, written, htext, hspelled⟩ :=
    parse_spelled hparse hhost hport
  obtain ⟨-, -, -, heffective⟩ := hspelled.parse htext hparse
  exact ⟨_, host, port, ⟨address, h⟩, scheme, credentials, portText, rest, written, rfl, htext,
    hspelled, heffective.symm.trans hport⟩

/-- The address of a listener is made of what it names. -/
theorem Names.address (h : Names raw kind host port) :
    ∃ found, hostOf kind host = .ok found ∧
      listenerAddress raw = .ok (found.shown ++ ":" ++ toString port) := by
  obtain ⟨⟨address, haddress⟩, scheme, credentials, portText, rest, written, rfl, htext, hspelled,
    hwritten⟩ := h
  obtain ⟨-, u, shown, port', hparse, hhost, hport, rfl⟩ := listenerAddress_eq_ok.mp haddress
  obtain ⟨a, ha, hfound, heffective⟩ := hspelled.parse htext hparse
  obtain ⟨b, hb, -, rfl⟩ := hostText?_eq_some.mp hhost
  obtain rfl := Option.some.inj (ha.symm.trans hb)
  obtain rfl := Option.some.inj (hport.symm.trans (heffective.trans hwritten))
  exact ⟨a.host, hfound, haddress⟩

/-- With a special scheme or without one, such a host is shown in the normal form. -/
theorem normal_shown {found : Host} (h : hostOf kind host = .ok found)
    (hnormal : kind.isSpecial = true ∨ Host.Stable host) :
    ∃ normal, Host.parse host = .ok normal ∧ normal.shown = found.shown := by
  unfold hostOf at h
  cases hkind : kind.isSpecial with
  | true =>
    rw [if_pos hkind] at h
    exact ⟨found, h, rfl⟩
  | false =>
    rw [if_neg (by simp [hkind])] at h
    cases hnormal.resolve_left (by simp [hkind]) with
    | bracketed => exact ⟨found, h, rfl⟩
    | @normal _ normal read kept =>
      have hspecial : hostOf .network host = .ok normal := read
      have hsettled : Host.Settled normal.shown := Host.settled_shown hspecial
      obtain ⟨opaque', hopaque, hshown⟩ := hsettled.parseOpaque
      rw [kept] at hopaque
      cases h.symm.trans hopaque
      exact ⟨normal, read, hshown.symm⟩

/-- Two listeners with the same host and port have one address. -/
theorem Names.same (h : Names raw kind host port) (h' : Names raw' kind' host' port)
    (hcase : host.map Char.toLower = host'.map Char.toLower)
    (halike : Alike kind kind' host host') :
    listenerAddress raw = listenerAddress raw' := by
  obtain ⟨found, hfound, haddress⟩ := h.address
  obtain ⟨found', hfound', haddress'⟩ := h'.address
  have hshown : found.shown = found'.shown := by
    cases halike with
    | normal first second =>
      obtain ⟨normal, hread, hnormal⟩ := normal_shown hfound first
      obtain ⟨normal', hread', hnormal'⟩ := normal_shown hfound' second
      rw [Host.parse_congr hcase] at hread
      obtain rfl := Except.ok.inj (hread.symm.trans hread')
      rw [← hnormal, hnormal']
    | kept first second same =>
      subst same
      have hsame : hostOf kind host = hostOf kind' host := by
        rw [hostOf, hostOf, first, second]
      rw [Except.ok.inj (hfound.symm.trans (hsame.trans hfound'))]
  rw [haddress, haddress', hshown]

end Listener

/-! ### Entries -/

/-- The first that is refused among some is the first among more behind them. -/
theorem First.append {α ε : Type} {R : List α → α → ε → Prop} {before xs : List α} {fault : ε}
    (h : First R before xs fault) (ys : List α) : First R before (xs ++ ys) fault := by
  induction h with
  | here refused => exact .here refused
  | later passes _ ih => exact .later passes ih

namespace Config

open ForwarderEntry Listener

/-- An entry with the address of one in front of it is refused, if none in front of it is. -/
theorem first_duplicate {front : List ForwarderEntry} (after : List ForwarderEntry)
    {d e : ForwarderEntry} (hd : d ∈ front) {address : String} (hfirst : d.HasAddress address)
    (hsecond : e.HasAddress address) (hnone : ∀ f, ¬ First Refused [] front f) :
    ∃ fault, First Refused [] (front ++ e :: after) fault ∧
      (fault = .duplicateListener address ∨
        Text.isBlankText e.url = true ∧ fault = .blankUrl e.listener) := by
  cases hblank : Text.isBlankText e.url with
  | true =>
    have hrefused : Refused ([] ++ front) e (.blankUrl e.listener) := .blankUrl hblank
    exact ⟨_, first_iff.mpr ⟨front, e, after, rfl, hnone, hrefused⟩, .inr ⟨rfl, rfl⟩⟩
  | false =>
    have hrefused : Refused ([] ++ front) e (.duplicateListener address) :=
      .duplicate hblank hsecond hd hfirst
    exact ⟨_, first_iff.mpr ⟨front, e, after, rfl, hnone, hrefused⟩, .inl rfl⟩

/-- Where two entries name the same port and the same host, but for the case of its letters, the
configuration is not valid, in whatever way the two are spelled, if their hosts are brought into the
same form. What is reported is the address of both, or what is wrong with an entry in front of the
second one or with its URL. -/
theorem validate_duplicate {c : Config} {before between after : List ForwarderEntry}
    {d e : ForwarderEntry} (hentries : c.forwarders = before ++ d :: between ++ e :: after)
    {kind kind' : SchemeKind} {host host' : List Char} {port : Nat}
    (hfirst : Names d.listener kind host port) (hsecond : Names e.listener kind' host' port)
    (hcase : host.map Char.toLower = host'.map Char.toLower)
    (halike : Alike kind kind' host host') :
    ∃ fault, c.validate = .error fault ∧
      ((∃ address, d.HasAddress address ∧ fault = .duplicateListener address) ∨
        First Refused [] (before ++ d :: between) fault ∨
          Text.isBlankText e.url = true ∧ fault = .blankUrl e.listener) := by
  obtain ⟨address, haddress⟩ := hfirst.accepted
  have hsame : e.HasAddress address := (hfirst.same hsecond hcase halike).symm.trans haddress
  by_cases hnone : ∀ f, ¬ First Refused [] (before ++ d :: between) f
  · obtain ⟨fault, hrefused, hcause⟩ := first_duplicate after (by simp) haddress hsame hnone
    refine ⟨fault, validate_eq_error.mpr (.inr (hentries ▸ hrefused)), ?_⟩
    rcases hcause with hduplicate | hblank
    · exact .inl ⟨address, haddress, hduplicate⟩
    · exact .inr (.inr hblank)
  · obtain ⟨fault, hrefused⟩ := not_forall_not.mp hnone
    refine ⟨fault, validate_eq_error.mpr (.inr ?_), .inr (.inl hrefused)⟩
    exact hentries ▸ hrefused.append (e :: after)

/-- A port as it is written. -/
theorem portText_sample : Url.PortText ":2222".toList (some 2222) :=
  @Url.PortText.colon "2222".toList (by simp)

/-- A URL in capital letters names the same listener as a host and a port with credentials. -/
theorem validate_duplicate_localhost :
    let d : ForwarderEntry := { url := "a.example.com", listener := "http://LOCALHOST:2222/x" }
    let e : ForwarderEntry := { url := "b.example.com", listener := " me@localhost:2222 " }
    Names d.listener .network "LOCALHOST".toList 2222 ∧
      Names e.listener .other "localhost".toList 2222 ∧
      ∃ fault, Config.validate ⟨[d, e]⟩ = .error fault ∧
        ((∃ address, d.HasAddress address ∧ fault = .duplicateListener address) ∨
          First Refused [] [d] fault ∨
            Text.isBlankText e.url = true ∧ fault = .blankUrl e.listener) := by
  intro d e
  have hfirst : Names d.listener .network "LOCALHOST".toList 2222 :=
    { accepted := ⟨"localhost:2222", by decide +kernel⟩
      spelled := by
        refine ⟨"http", [], ":2222".toList, "/x".toList, some 2222, rfl, by decide +kernel, ?_, rfl⟩
        exact .plain (.inl rfl) (by simp [Url.endsAuthority]) (by simp) (by simp) portText_sample
          (.ended rfl) }
  have hsecond : Names e.listener .other "localhost".toList 2222 :=
    { accepted := ⟨"localhost:2222", by decide +kernel⟩
      spelled := by
        refine ⟨"tcp", "me@".toList, ":2222".toList, [], some 2222, rfl, by decide +kernel, ?_, rfl⟩
        exact .plain (.inr ⟨"me".toList, rfl⟩) (by simp [Url.endsAuthority]) (by simp) (by simp)
          portText_sample .nothing }
  refine ⟨hfirst, hsecond, ?_⟩
  have hentries : Config.forwarders ⟨[d, e]⟩ = [] ++ d :: [] ++ e :: [] := rfl
  have hstable : Host.Stable "localhost".toList :=
    have hread : Host.parse "localhost".toList = .ok (.domain "localhost") := rfl
    .normal hread rfl
  exact validate_duplicate hentries hfirst hsecond (by decide) (.normal (.inl rfl) (.inr hstable))

/-- Without a special scheme a host stays in the case in which it is written. -/
theorem validate_kept_apart :
    let d : ForwarderEntry :=
      { url := "https://a.example.com", listener := "tcp://localhost:2222" }
    let e : ForwarderEntry := { url := "https://b.example.com", listener := "LOCALHOST:2222" }
    Names d.listener .other "localhost".toList 2222 ∧
      Names e.listener .other "LOCALHOST".toList 2222 ∧
      "localhost".toList.map Char.toLower = "LOCALHOST".toList.map Char.toLower ∧
      Config.validate ⟨[d, e]⟩ = .ok () := by
  intro d e
  have hfirst : Names d.listener .other "localhost".toList 2222 :=
    { accepted := ⟨"localhost:2222", by decide +kernel⟩
      spelled := by
        refine ⟨"tcp", [], ":2222".toList, [], some 2222, rfl, by decide +kernel, ?_, rfl⟩
        exact .plain (.inl rfl) (by simp [Url.endsAuthority]) (by simp) (by simp) portText_sample
          .nothing }
  have hsecond : Names e.listener .other "LOCALHOST".toList 2222 :=
    { accepted := ⟨"LOCALHOST:2222", by decide +kernel⟩
      spelled := by
        refine ⟨"tcp", [], ":2222".toList, [], some 2222, rfl, by decide +kernel, ?_, rfl⟩
        exact .plain (.inl rfl) (by simp [Url.endsAuthority]) (by simp) (by simp) portText_sample
          .nothing }
  exact ⟨hfirst, hsecond, by decide, by decide +kernel⟩

end Config

end Carrier
