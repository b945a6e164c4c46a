import Carrier.Origin
import Carrier.Proofs.Override.Destination
import Carrier.Proofs.Text.Fields
import Carrier.Proofs.Upgrade.Composition
import Carrier.Proofs.Url.Listener
import Carrier.Proofs.Url.Spelling

/-!
# The host that is presented

The host to present is cut from a hostname by hand, while the URL that is dialed is read. Both find
the same host and port where the hostname has nothing in the place of an authority but these.

- `Url.cleaned_mark`, `Url.parse_mark`: what is read behind the mark that ends a scheme.
- `Url.Spelled.within_eq`: what an authority is made of.
- `Url.Located`: texts that are host and port of a URL and nothing else.
- `Presentable`: hostnames without anything else in the place of an authority.
- `presentedHost_located`: the host that is presented.
-/

namespace Carrier

/-! ### Behind the mark of a scheme -/

namespace Url

/-- What counts of a text that stands behind the mark of a scheme. -/
def countsBehind (s : List Char) : List Char :=
  (Text.dropEndWhile (·.toNat ≤ 0x20) s).filter fun c => c != '\t' && c != '\n' && c != '\r'

/-- What counts in front of the mark of a scheme has no colon, and what counts behind it is not
reached from the front. -/
theorem cleaned_mark {before : List Char} (h : ':' ∉ before) (after : List Char) :
    ∃ front, ':' ∉ front ∧
      cleaned (before ++ schemeMark ++ after) = front ++ schemeMark ++ countsBehind after := by
  have hmark (s : List Char) : schemeMark ++ s = ':' :: '/' :: '/' :: s := rfl
  have hstart : (before ++ schemeMark ++ after).dropWhile (·.toNat ≤ 0x20)
      = before.dropWhile (·.toNat ≤ 0x20) ++ schemeMark ++ after := by
    rw [List.append_assoc, List.dropWhile_append, hmark]
    cases hblank : before.dropWhile (·.toNat ≤ 0x20) with
    | nil => rfl
    | cons c front =>
      rw [List.append_assoc, hmark]
      rfl
  have hend (front : List Char) : Text.dropEndWhile (·.toNat ≤ 0x20) (front ++ schemeMark ++ after)
      = front ++ schemeMark ++ Text.dropEndWhile (·.toNat ≤ 0x20) after := by
    have hlast : front ++ schemeMark ++ after = (front ++ [':', '/']) ++ '/' :: after := by
      rw [List.append_assoc, hmark, List.append_assoc]
      rfl
    rw [hlast, Text.dropEndWhile_append (by decide), List.append_assoc, List.append_assoc, hmark]
    rfl
  refine ⟨(before.dropWhile (·.toNat ≤ 0x20)).filter fun c => c != '\t' && c != '\n' && c != '\r',
    fun hmem => ?_, ?_⟩
  · exact h ((List.dropWhile_suffix _).subset (List.mem_filter.mp hmem).1)
  · rw [cleaned, Text.strip, hstart, hend, List.filter_append, List.filter_append]
    rfl

theorem cutChar?_of_cutScheme? {s rest : List Char} {scheme : String}
    (h : cutScheme? s = some (scheme, rest)) :
    ∃ front, Text.cutChar? ':' s = some (front, rest) := by
  unfold cutScheme? at h
  split at h
  · rename_i c t front back hcut
    split at h
    · cases h
      exact ⟨front, hcut⟩
    · cases h
  · cases h

/-- A URL whose scheme always has a host is read from behind the mark of its scheme. -/
theorem authorityOf?_mark {text : String} {before after : List Char} (h : ':' ∉ before)
    (htext : text.toList = before ++ schemeMark ++ after) {u : Url} (hparse : parse text = .ok u)
    (hkind : SchemeKind.of u.scheme = .network) :
    authorityOf? text = some (u.scheme, afterSlashes after) := by
  obtain ⟨front, hfront, hclean⟩ := cleaned_mark h after
  have hcolon : Text.cutChar? ':' (cleaned text.toList)
      = some (front, '/' :: '/' :: countsBehind after) := by
    rw [htext, hclean]
    exact Text.cutChar?_eq_some_iff.mpr ⟨by rw [List.append_assoc]; rfl, hfront⟩
  obtain ⟨scheme, s, hcut, hread⟩ := parse_eq_ok hparse
  obtain ⟨front', hfront'⟩ := cutChar?_of_cutScheme? hcut
  obtain ⟨-, rfl⟩ := Prod.mk.inj (Option.some.inj (hcolon.symm.trans hfront'))
  have hscheme : u.scheme = scheme := by
    rcases hread with ⟨-, hread⟩ | ⟨-, t, hread⟩ | ⟨hother, -, rfl⟩
    · rw [(parseFile_eq_ok hread).1] at hkind
      cases hkind
    · exact (parseHierarchical_eq_ok hread).1
    · exact parseOther_scheme _ _
  rw [hscheme] at hkind ⊢
  unfold authorityOf?
  rw [hcut]
  dsimp only
  rw [hkind]
  rfl

/-- What an authority of a special scheme is made of. -/
theorem Spelled.within_eq {kind : SchemeKind} {credentials host portText rest : List Char}
    {port : Option Nat} (h : Spelled kind credentials host portText rest port)
    (hspecial : kind.isSpecial = true) :
    withinAuthority kind (credentials ++ (host ++ (portText ++ rest)))
      = credentials ++ (host ++ portText) := by
  have hrest : withinAuthority kind rest = [] := by
    cases h.remainder with
    | nothing => rfl
    | ended ends => exact withinAuthority_ends ends _
    | backslash => exact withinAuthority_ends (by simp [endsAuthority, hspecial]) _
  rw [withinAuthority_append fun c hc => h.within c (List.mem_append_left _ hc),
    withinAuthority_append fun c hc => h.within c (List.mem_append_right _ hc),
    withinAuthority_append fun c hc => (h.port.within kind c hc).1, hrest, List.append_nil]

/-! ### Host and port of a URL -/

/-- `u.Located text`: a text is a host and perhaps a port, and nothing else, and they are those of a
URL. -/
def Located (u : Url) (text : List Char) : Prop :=
  ∃ host portText port a, text = host ++ portText ∧
    Spelled .network [] host portText [] port ∧ u.authority = some a ∧
      Host.parse host = .ok a.host ∧ u.effectivePort? = port.or (defaultPort? u.scheme)

/-- A text in the place of an authority, with no credentials in it, is host and port of its URL. -/
theorem located_of_authorityOf? {text : String} {u : Url} (hparse : parse text = .ok u)
    (hkind : SchemeKind.of u.scheme = .network) {authority rest : List Char}
    (htext : authorityOf? text = some (u.scheme, authority ++ rest))
    (hwithin : ∀ c ∈ authority, endsAuthority .network c = false) (hunsigned : '@' ∉ authority)
    (hrest : withinAuthority .network rest = []) : u.Located authority := by
  have hhier := (parse_of_authorityOf? htext).symm.trans hparse
  obtain ⟨-, a, rest', parts, hread, ha, -⟩ := parseHierarchical_eq_ok hhier
  have hne : a.host ≠ .domain "" := by
    obtain ⟨b, s, hb, hhost⟩ := parse_network_host hparse hkind
    obtain rfl := Option.some.inj (ha.symm.trans hb)
    exact Host.parse_ne_empty hhost
  obtain ⟨credentials, host, portText, more, port, hsplit, hspelled⟩ := exists_spelled hread hne
  rw [hsplit] at hread htext
  obtain ⟨hhost, hkept⟩ := hspelled.readAuthority hread
  rw [hkind] at hspelled hhost
  -- the authority has no sign, and so no credentials
  have hall : authority = credentials ++ (host ++ portText) := by
    rw [← hspelled.within_eq rfl, ← hsplit, withinAuthority_append hwithin, hrest, List.append_nil]
  obtain rfl : credentials = [] := by
    refine hspelled.signed.resolve_right ?_
    rintro ⟨front, rfl⟩
    exact hunsigned (by simp [hall])
  refine ⟨host, portText, port, a, hall, ?_, ha, hhost, effectivePort?_of_kept ha hkept⟩
  exact { hspelled with remainder := .nothing }

end Url

/-! ### Hostnames -/

/-- A hostname has nothing in the place of an authority but visible characters of a host and a port,
and its first colon ends its scheme if it has one. -/
structure Presentable (hostname : String) : Prop where
  /-- No colon stands in front of the mark of the scheme. -/
  scheme : ∀ before after, Text.cut? schemeMark hostname.toList = some (before, after) →
    ':' ∉ before
  /-- No character stands for something else than a host and a port, or is left out. -/
  own : ∀ c ∈ (presentedHost hostname).toList,
    0x20 < c.toNat ∧ c ≠ '@' ∧ c ≠ '?' ∧ c ≠ '#' ∧ c ≠ '\\'

/-- The host to present is cut from behind the mark of the scheme, with which the origin is read. -/
theorem presentedHost_eq (hostname : String) :
    ∃ before after, (ensureScheme hostname).toList = before ++ schemeMark ++ after ∧
      (presentedHost hostname).toList = after.takeWhile (· != '/') ∧
        (Presentable hostname → ':' ∉ before) := by
  unfold ensureScheme presentedHost
  cases hcut : Text.cut? schemeMark hostname.toList with
  | none =>
    refine ⟨"https".toList, hostname.toList, ?_, String.toList_ofList, fun _ => by decide⟩
    show ("https://" ++ hostname).toList = _
    rw [String.toList_append]
    rfl
  | some halves =>
    obtain ⟨before, after⟩ := halves
    exact ⟨before, after, Text.cut?_eq_some hcut, String.toList_ofList, fun h => h.scheme _ _ hcut⟩

/-- What is to be presented is all that counts in front of the path. -/
theorem afterSlashes_presented {after : List Char} (hne : after.takeWhile (· != '/') ≠ [])
    (hown : ∀ c ∈ after.takeWhile (· != '/'), 0x20 < c.toNat ∧ c ≠ '\\') :
    ∃ rest, Url.afterSlashes after = after.takeWhile (· != '/') ++ rest ∧
      Url.withinAuthority .network rest = [] := by
  have hsplit := List.takeWhile_append_dropWhile (p := (· != '/')) (l := after)
  have hslash : ∀ c ∈ after.takeWhile (· != '/'), c ≠ '/' := fun c hc => by
    simpa using List.mem_takeWhile_imp hc
  have hpath : after.dropWhile (· != '/') = [] ∨ ∃ t, after.dropWhile (· != '/') = '/' :: t := by
    cases hrest : after.dropWhile (· != '/') with
    | nil => exact .inl rfl
    | cons c t =>
      have hc := List.head_dropWhile_not (· != '/') (l := after) (by simp [hrest])
      simp only [hrest, List.head_cons] at hc
      exact .inr ⟨t, by rw [show c = '/' by simpa using hc]⟩
  generalize after.takeWhile (· != '/') = presented at *
  generalize after.dropWhile (· != '/') = path at *
  subst hsplit
  have hvisible : ∀ c ∈ presented, decide (c.toNat ≤ 0x20) = false := fun c hc => by
    simpa using (hown c hc).1
  have hkept : presented.filter (fun c => c != '\t' && c != '\n' && c != '\r') = presented := by
    have hclean := Url.cleaned_of_forall fun c hc => (hown c hc).1
    rwa [Url.cleaned, Text.strip_of_forall hvisible] at hclean
  obtain ⟨c, t, rfl⟩ := List.exists_cons_of_ne_nil hne
  have hfirst : (c == '/' || c == '\\') = false := by
    simp [hslash c List.mem_cons_self, (hown c List.mem_cons_self).2]
  rcases hpath with rfl | ⟨path, rfl⟩
  · refine ⟨[], ?_, rfl⟩
    rw [Url.afterSlashes, List.append_nil, Text.dropEndWhile_of_forall hvisible, hkept]
    exact List.dropWhile_cons_of_neg (by simp [hfirst])
  · have hends : Url.endsAuthority .network '/' = true := rfl
    refine ⟨'/' :: Url.countsBehind path, ?_, Url.withinAuthority_ends hends _⟩
    rw [Url.afterSlashes, Text.dropEndWhile_append (by decide), List.filter_append, hkept]
    exact List.dropWhile_cons_of_neg (by simp [hfirst])

/-- Of a hostname that can be dialed, what is presented is host and port of its URL. -/
theorem located_presentedHost {hostname : String} {u : Url}
    (hparse : Url.parse (ensureScheme hostname) = .ok u)
    (hkind : SchemeKind.of u.scheme = .network) (hpresentable : Presentable hostname)
    (hgiven : presentedHost hostname ≠ "") : u.Located (presentedHost hostname).toList := by
  obtain ⟨before, after, htext, hpresented, hscheme⟩ := presentedHost_eq hostname
  have hown := hpresentable.own
  have hne : (presentedHost hostname).toList ≠ [] := mt String.toList_eq_nil_iff.mp hgiven
  rw [hpresented] at hown hne ⊢
  have hslash : ∀ c ∈ after.takeWhile (· != '/'), c ≠ '/' := fun c hc => by
    simpa using List.mem_takeWhile_imp hc
  obtain ⟨rest, hrest, hwithin⟩ := afterSlashes_presented hne fun c hc =>
    ⟨(hown c hc).1, (hown c hc).2.2.2.2⟩
  have hmark := Url.authorityOf?_mark (hscheme hpresentable) htext hparse hkind
  rw [hrest] at hmark
  refine Url.located_of_authorityOf? hparse hkind hmark (fun c hc => ?_) ?_ hwithin
  · obtain ⟨-, -, hquery, hfragment, hbackslash⟩ := hown c hc
    simp [Url.endsAuthority, hslash c hc, hquery, hfragment, hbackslash]
  · exact fun hmem => (hown _ hmem).2.1 rfl

/-- For a hostname that can be dialed, no host is presented, and a request asks for host and port of
its URL, or what is presented is host and port of its URL and nothing else, if the hostname has
nothing else in the place of an authority. -/
theorem presentedHost_located {hostname : String}
    (hvalid : ({ origin := ensureScheme hostname } : DialOptions).validate = .ok ()) :
    ∃ u v a, Url.parse (ensureScheme hostname) = .ok u ∧ u.authority = some a ∧
      ({ origin := ensureScheme hostname } : DialOptions).webSocketUrl = .ok v ∧
      (presentedHost hostname = "" → ∀ o key r, o.host = some (presentedHost hostname) →
        UpgradeRequest.build v o key = .ok r → ∃ valid, r.headers.valuesOf .host =
          UpgradeRequest.known a.location valid :: o.headers.valuesOf .host) ∧
      (Presentable hostname → presentedHost hostname ≠ "" →
        u.Located (presentedHost hostname).toList) := by
  obtain ⟨v, hurl⟩ := DialOptions.validate_eq_ok.mp hvalid
  obtain ⟨-, u, carrier, hparse, hcarried, rfl⟩ := DialOptions.webSocketUrl_eq_ok_iff.mp hurl
  have hkind := hcarried.network.1
  obtain ⟨a, s, ha, -⟩ := Url.parse_network_host hparse hkind
  refine ⟨u, _, a, hparse, ha, hurl, fun hnone o key r hhost hbuild => ?_,
    located_presentedHost hparse hkind⟩
  have hcarries := UpgradeRequest.carries_of_build (.dialed hurl) hbuild
  obtain ⟨valid, hasked⟩ := hcarries.asked (by rw [hhost, hnone]; rfl)
  have hlocation : ({ u with scheme := carrier } : Url).asked = a.location := by
    rw [Url.asked, ha]
  exact ⟨hlocation ▸ valid, by rw [hasked]; simp only [hlocation]⟩

/-- A port is presented, and a path is not. -/
theorem presentedHost_located_port :
    ({ origin := ensureScheme "https://ssh.example.com:8443/path" } : DialOptions).validate
        = .ok () ∧
      Presentable "https://ssh.example.com:8443/path" ∧
      ∃ u, Url.parse (ensureScheme "https://ssh.example.com:8443/path") = .ok u ∧
        u.Located "ssh.example.com:8443".toList := by
  have hvalid : ({ origin := ensureScheme "https://ssh.example.com:8443/path" } :
      DialOptions).validate = .ok () := by decide +kernel
  have hpresented : presentedHost "https://ssh.example.com:8443/path" = "ssh.example.com:8443" := by
    decide +kernel
  have hpresentable : Presentable "https://ssh.example.com:8443/path" := by
    refine ⟨fun before after hcut => ?_, by rw [hpresented]; simp⟩
    have hmark : Text.cut? schemeMark "https://ssh.example.com:8443/path".toList
        = some ("https".toList, "ssh.example.com:8443/path".toList) := by decide +kernel
    cases hmark.symm.trans hcut
    decide
  obtain ⟨u, v, a, hparse, -, -, -, hlocated⟩ := presentedHost_located hvalid
  rw [hpresented] at hlocated
  exact ⟨hvalid, hpresentable, u, hparse, hlocated hpresentable (by decide)⟩

/-- A path behind a backslash is presented, though the URL does not have it in its authority. -/
theorem presentedHost_keeps_path :
    ({ origin := ensureScheme "https://ssh.example.com\\path" } : DialOptions).validate = .ok () ∧
      presentedHost "https://ssh.example.com\\path" = "ssh.example.com\\path" ∧
      ∃ u, Url.parse (ensureScheme "https://ssh.example.com\\path") = .ok u ∧
        u.hostText? = some "ssh.example.com" ∧ u.path = .segments ["path"] ∧
        ¬ u.Located (presentedHost "https://ssh.example.com\\path").toList := by
  have hpresented : presentedHost "https://ssh.example.com\\path" = "ssh.example.com\\path" := by
    decide +kernel
  refine ⟨by decide +kernel, hpresented,
    ⟨"https", some ⟨"", "", .domain "ssh.example.com", none⟩, .segments ["path"], none, none⟩,
    by decide +kernel, rfl, rfl, ?_⟩
  rw [hpresented]
  rintro ⟨host, portText, port, a, htext, hspelled, -, -, -⟩
  -- neither a host nor a port holds a backslash
  have hmem : '\\' ∈ host ++ portText := by
    rw [← htext]
    decide +kernel
  have hends : Url.endsAuthority .network '\\' = true := rfl
  rcases List.mem_append.mp hmem with hmem | hmem
  · cases hends.symm.trans (hspelled.within _ hmem)
  · cases hends.symm.trans (hspelled.port.within .network _ hmem).1

end Carrier
