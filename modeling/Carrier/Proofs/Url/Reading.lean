import Carrier.Proofs.Url.Host

/-!
# How URLs are read

A URL is read from left to right, and what its parts are is settled one after the other: the scheme,
then what it asks of the rest, then credentials, host and port.

- `Url.parse_https`: what follows the scheme and the slashes of a URL over HTTPS decides everything.
- `Url.readAuthority_eq`: credentials, host and port, one after the other;
  `Url.readAuthority_special` for the schemes that always have a host.
- `Url.readAuthority_eq_ok`, `Url.parseHierarchical_eq_ok`, `Url.parseFile_eq_ok`,
  `Url.parse_eq_ok`: where the parts of a URL that has been read come from.
- `Url.parse_network`, `Url.parse_network_host`: what that is for a scheme that always has a host.
-/

namespace Carrier

/-- A result of two steps is that of the second, after the first. -/
theorem Except.bind_eq_ok {ε α β : Type} {x : Except ε α} {next : α → Except ε β} {b : β} :
    x.bind next = .ok b ↔ ∃ a, x = .ok a ∧ next a = .ok b := by
  cases x <;> simp [Except.bind]

/-- Only what follows a character that stays can be dropped at the end. -/
theorem Text.dropEndWhile_append {p : Char → Bool} {c : Char} (hc : p c = false)
    (s t : List Char) : dropEndWhile p (s ++ c :: t) = s ++ c :: dropEndWhile p t := by
  unfold dropEndWhile
  rw [List.reverse_append, List.reverse_cons, List.append_assoc, List.singleton_append,
    List.dropWhile_append]
  cases hrest : t.reverse.dropWhile p with
  | nil => simp [hc]
  | cons d ds => simp

/-- A special scheme has no empty host. -/
theorem Host.parse_ne_empty {s : List Char} {h : Host} (hparse : parse s = .ok h) :
    h ≠ .domain "" := by
  rintro rfl
  exact (parse_domain hparse).1 rfl

namespace Url

/-! ### The text after the scheme -/

/-- The text after the scheme and the slashes of a URL over HTTPS, as it counts. -/
def afterSlashes (s : List Char) : List Char :=
  ((Text.dropEndWhile (·.toNat ≤ 0x20) s).filter fun c =>
    c != '\t' && c != '\n' && c != '\r').dropWhile fun c => c == '/' || c == '\\'

/-- What follows the scheme and the slashes decides everything. -/
theorem parse_https (text : String) :
    parse ("https://" ++ text) = parseHierarchical "https" (afterSlashes text.toList) := by
  have hchars : ("https://" ++ text).toList = "https:/".toList ++ '/' :: text.toList := by
    rw [String.toList_append]
    rfl
  have hstart : ("https:/".toList ++ '/' :: text.toList).dropWhile (·.toNat ≤ 0x20)
      = "https:/".toList ++ '/' :: text.toList := rfl
  -- the slash in front of the text keeps the end from reaching into the scheme
  have hclean : cleaned ("https://" ++ text).toList
      = "https://".toList ++ (Text.dropEndWhile (·.toNat ≤ 0x20) text.toList).filter fun c =>
          c != '\t' && c != '\n' && c != '\r' := by
    rw [hchars, cleaned, Text.strip, hstart, Text.dropEndWhile_append (by decide),
      List.filter_append]
    rfl
  have hscheme : ∀ s : List Char,
      cutScheme? ("https://".toList ++ s) = some ("https", "//".toList ++ s) := fun _ => rfl
  unfold parse
  rw [hclean, hscheme]
  rfl

/-! ### Authorities -/

/-- The port after a host, if one is written, and the text after it. -/
def portAfter : List Char → Except UrlFault (Option Nat × List Char)
  | ':' :: s => readPort 0 false s
  | s => .ok (none, s)

theorem portAfter_colon (s : List Char) : portAfter (':' :: s) = readPort 0 false s := rfl

theorem portAfter_of_ne {s : List Char} (h : ∀ t, s ≠ ':' :: t) :
    portAfter s = .ok (none, s) := by
  unfold portAfter
  split
  · exact absurd rfl (h _)
  · rfl

/-- A port that is read has 16 bits. -/
theorem readPort_lt {acc port : Nat} {any : Bool} {s rest : List Char} (hacc : acc < 65536)
    (h : readPort acc any s = .ok (some port, rest)) : port < 65536 := by
  -- the digits that have been read are a small number, and no more are taken than make one
  have hread {acc : Nat} {any : Bool} {t : List Char} (hacc : acc < 65536)
      (h : Except.ok (if any then some acc else none, t)
        = (.ok (some port, rest) : Except UrlFault (Option Nat × List Char))) : port < 65536 := by
    cases any with
    | false => cases h
    | true =>
      cases h
      exact hacc
  induction s generalizing acc any with
  | nil => exact hread hacc h
  | cons c s ih =>
    rw [readPort] at h
    split at h
    · split at h
      · rename_i hsmall
        exact ih hsmall h
      · cases h
    · split at h
      · exact hread hacc h
      · cases h

theorem portAfter_lt {port : Nat} {s rest : List Char}
    (h : portAfter s = .ok (some port, rest)) : port < 65536 := by
  unfold portAfter at h
  split at h
  · exact readPort_lt (by decide) h
  · cases h

/-- A character that does not end a host is part of it. -/
theorem cutHost_cons {kind : SchemeKind} {inside : Bool} {c : Char}
    (hcolon : c ≠ ':' ∨ inside = true) (hends : endsAuthority kind c = false) (s : List Char) :
    cutHost kind inside (c :: s) =
      let inside := if c == '[' then true else if c == ']' then false else inside
      (c :: (cutHost kind inside s).1, (cutHost kind inside s).2) := by
  have hstays : ((c == ':' && !inside) || endsAuthority kind c) = false := by
    rcases hcolon with hcolon | rfl
    · simp [hcolon, hends]
    · simp [hends]
  rw [cutHost, hstays, if_neg Bool.false_ne_true]

/-- A host without brackets ends at a colon. -/
theorem cutHost_colon {kind : SchemeKind} {host : List Char}
    (h : ∀ c ∈ host, c ≠ ':' ∧ c ≠ '[' ∧ endsAuthority kind c = false) (rest : List Char) :
    cutHost kind false (host ++ ':' :: rest) = (host, ':' :: rest) := by
  induction host with
  | nil => rfl
  | cons c host ih =>
    obtain ⟨hcolon, hbracket, hends⟩ := h c List.mem_cons_self
    have hrest := ih fun d hd => h d (List.mem_cons_of_mem c hd)
    have houtside : (if c == '[' then true else if c == ']' then false else false) = false := by
      simp [hbracket]
    rw [List.cons_append, cutHost_cons (.inl hcolon) hends]
    dsimp only
    rw [houtside, hrest]

/-- A host in brackets may hold colons. -/
theorem cutHost_bracketed {kind : SchemeKind} {host : List Char}
    (h : ∀ c ∈ host, Host.isBracket c = false ∧ endsAuthority kind c = false) (rest : List Char) :
    cutHost kind false ('[' :: (host ++ ']' :: ':' :: rest))
      = ('[' :: (host ++ [']']), ':' :: rest) := by
  have hopen : endsAuthority kind '[' = false := by cases kind <;> decide
  have hclose : endsAuthority kind ']' = false := by cases kind <;> decide
  -- between the brackets no colon ends the host
  have hinside : cutHost kind true (host ++ ']' :: ':' :: rest) = (host ++ [']'], ':' :: rest) := by
    induction host with
    | nil =>
      rw [List.nil_append, cutHost_cons (.inr rfl) hclose]
      rfl
    | cons c host ih =>
      obtain ⟨hbracket, hends⟩ := h c List.mem_cons_self
      have hrest := ih fun d hd => h d (List.mem_cons_of_mem c hd)
      have hstill : (if c == '[' then true else if c == ']' then false else true) = true := by
        have hneither : (c == '[') = false ∧ (c == ']') = false := by
          simpa [Host.isBracket] using hbracket
        simp [hneither]
      rw [List.cons_append, cutHost_cons (.inr rfl) hends]
      dsimp only
      rw [hstill, hrest]
      rfl
  rw [cutHost_cons (.inl (by decide)) hopen]
  show ('[' :: (cutHost kind true _).1, (cutHost kind true _).2) = _
  rw [hinside]

/-- The host that a text stands for. -/
def hostOf (kind : SchemeKind) (text : List Char) : Except UrlFault Host :=
  if kind.isSpecial then Host.parse text else Host.parseOpaque text

/-- Credentials, host and port are read one after the other. What follows an empty host must not
make it that of a place. -/
theorem readAuthority_eq (scheme : String) (s : List Char) :
    readAuthority scheme s =
      (cutCredentials (SchemeKind.of scheme) s).bind fun (username, password, s) =>
        (hostOf (SchemeKind.of scheme) (cutHost (SchemeKind.of scheme) false s).1).bind fun host =>
          if host = .domain "" ∧ (cutHost (SchemeKind.of scheme) false s).2.head? = some ':' then
            .error .emptyHost
          else
            (portAfter (cutHost (SchemeKind.of scheme) false s).2).bind fun (port, rest) =>
              if host = .domain "" ∧ ¬ (username.isEmpty ∧ password.isEmpty) then .error .emptyHost
              else
                .ok (⟨username, password, host,
                  if port = defaultPort? scheme then none else port⟩, rest) := by
  unfold readAuthority
  dsimp only
  generalize SchemeKind.of scheme = kind
  cases cutCredentials kind s with
  | error fault => rfl
  | ok found =>
    obtain ⟨username, password, t⟩ := found
    show (if _ then _ else _) = (hostOf kind (cutHost kind false t).1).bind _
    unfold hostOf
    generalize cutHost kind false t = cut
    obtain ⟨text, rest⟩ := cut
    dsimp only
    by_cases hempty : (kind.isSpecial && text.isEmpty) = true
    · -- the host of a special scheme that has no characters is refused twice
      obtain ⟨hspecial, htext⟩ : kind.isSpecial = true ∧ text = [] := by simpa using hempty
      have hrefused : (if kind.isSpecial = true then Host.parse text else Host.parseOpaque text)
          = .error .emptyHost := by
        rw [if_pos hspecial, htext]
        rfl
      rw [if_pos hempty, hrefused]
      rfl
    · have hpush (next : Host → Except UrlFault (Authority × List Char)) :
          (if kind.isSpecial = true then Host.parse text >>= next
            else Host.parseOpaque text >>= next)
            = (if kind.isSpecial = true then Host.parse text
              else Host.parseOpaque text).bind next := by
        split <;> rfl
      rw [if_neg hempty]
      refine (hpush _).trans (congrArg (Except.bind _) (funext fun host => ?_))
      by_cases hcolon : host = .domain "" ∧ rest.head? = some ':'
      · rw [if_pos hcolon, if_pos hcolon]
        rfl
      · rw [if_neg hcolon, if_neg hcolon]
        -- with a port or without one, what is left is asked of the credentials
        split
        · rw [portAfter_colon]
          refine congrArg (Except.bind _) (funext fun found => ?_)
          split <;> rfl
        · rename_i hnone
          rw [portAfter_of_ne hnone]
          refine congrArg (Except.bind (.ok (none, rest))) (funext fun found => ?_)
          split <;> rfl

/-- A special scheme has no empty host, so that nothing more is asked of what follows. -/
theorem readAuthority_special {scheme : String} (hkind : (SchemeKind.of scheme).isSpecial = true)
    (s : List Char) :
    readAuthority scheme s =
      (cutCredentials (SchemeKind.of scheme) s).bind fun (username, password, s) =>
        (Host.parse (cutHost (SchemeKind.of scheme) false s).1).bind fun host =>
          (portAfter (cutHost (SchemeKind.of scheme) false s).2).map fun (port, rest) =>
            (⟨username, password, host, if port = defaultPort? scheme then none else port⟩,
              rest) := by
  rw [readAuthority_eq]
  refine congrArg (Except.bind _) (funext fun (username, password, t) => ?_)
  dsimp only [hostOf]
  rw [if_pos hkind]
  cases hparse : Host.parse (cutHost (SchemeKind.of scheme) false t).1 with
  | error fault => rfl
  | ok host =>
    have hne := Host.parse_ne_empty hparse
    simp only [Except.bind, hne, false_and, if_false]
    cases portAfter (cutHost (SchemeKind.of scheme) false t).2 <;> rfl

/-- What the parts of an authority are read from, one after the other. No port is kept that the
scheme implies. -/
theorem readAuthority_parts {scheme : String} {s rest : List Char} {a : Authority}
    (h : readAuthority scheme s = .ok (a, rest)) :
    ∃ t port, cutCredentials (SchemeKind.of scheme) s = .ok (a.username, a.password, t) ∧
      hostOf (SchemeKind.of scheme) (cutHost (SchemeKind.of scheme) false t).1 = .ok a.host ∧
      portAfter (cutHost (SchemeKind.of scheme) false t).2 = .ok (port, rest) ∧
      a.port = if port = defaultPort? scheme then none else port := by
  rw [readAuthority_eq] at h
  obtain ⟨⟨username, password, t⟩, hcredentials, h⟩ := Except.bind_eq_ok.mp h
  obtain ⟨host, hhost, h⟩ := Except.bind_eq_ok.mp h
  split at h
  · cases h
  · obtain ⟨⟨port, more⟩, hport, h⟩ := Except.bind_eq_ok.mp h
    dsimp only at h
    split at h
    · cases h
    · cases h
      exact ⟨t, port, hcredentials, hhost, hport, rfl⟩

/-- Where the parts of an authority come from: the credentials are cut from the text, the host is
read from some piece of it, and no port is kept that the scheme implies. -/
theorem readAuthority_eq_ok {scheme : String} {s rest : List Char} {a : Authority}
    (h : readAuthority scheme s = .ok (a, rest)) :
    ∃ t text port, cutCredentials (SchemeKind.of scheme) s = .ok (a.username, a.password, t) ∧
      hostOf (SchemeKind.of scheme) text = .ok a.host ∧
      a.port = if port = defaultPort? scheme then none else port := by
  obtain ⟨t, port, hcredentials, hhost, -, hport⟩ := readAuthority_parts h
  exact ⟨t, _, port, hcredentials, hhost, hport⟩

/-- A port that is kept has 16 bits. -/
theorem readAuthority_port_lt {scheme : String} {s rest : List Char} {a : Authority}
    (h : readAuthority scheme s = .ok (a, rest)) {port : Nat} (hport : a.port = some port) :
    port < 65536 := by
  obtain ⟨t, found, -, -, hread, hkept⟩ := readAuthority_parts h
  rw [hport] at hkept
  split at hkept
  · cases hkept
  · exact portAfter_lt (hkept ▸ hread)

/-! ### Whole URLs -/

theorem parseHierarchical_eq_ok {scheme : String} {s : List Char} {u : Url}
    (h : parseHierarchical scheme s = .ok u) :
    u.scheme = scheme ∧ ∃ a rest parts, readAuthority scheme s = .ok (a, rest) ∧
      u.authority = some a ∧ u.path = .segments parts := by
  unfold parseHierarchical at h
  cases hread : readAuthority scheme s with
  | error fault =>
    rw [hread] at h
    cases h
  | ok found =>
    obtain ⟨a, rest⟩ := found
    rw [hread] at h
    cases h
    exact ⟨rfl, a, rest, _, rfl, rfl, rfl⟩

/-- The URL of a file has no more than a host, which may be that of no place. -/
theorem parseFile_eq_ok {s : List Char} {u : Url} (h : parseFile s = .ok u) :
    u.scheme = "file" ∧ ∃ host parts, u.authority = some ⟨"", "", host, none⟩ ∧
      u.path = .segments parts ∧ (host = .domain "" ∨ ∃ text, Host.parse text = .ok host) := by
  -- a drive in the path takes the host away
  have hmade {v : Url} {host : Host} {drive : Bool} {path : List Char}
      {query fragment : Option String}
      (hhost : host = .domain "" ∨ ∃ text, Host.parse text = .ok host)
      (hv : v = ⟨"file", some (if drive then ⟨"", "", .domain "", none⟩ else ⟨"", "", host, none⟩),
        .segments (fileSegments path), query, fragment⟩) :
      v.scheme = "file" ∧ ∃ host parts, v.authority = some ⟨"", "", host, none⟩ ∧
        v.path = .segments parts ∧ (host = .domain "" ∨ ∃ text, Host.parse text = .ok host) := by
    subst hv
    cases drive with
    | true => exact ⟨rfl, _, _, rfl, rfl, .inl rfl⟩
    | false => exact ⟨rfl, _, _, rfl, rfl, hhost⟩
  unfold parseFile at h
  dsimp only at h
  split at h
  · rename_i c d t
    split at h
    · split at h
      · cases h
        exact hmade (.inl rfl) rfl
      · split at h
        · cases h
          exact hmade (.inl rfl) rfl
        · cases hparse : Host.parse (t.takeWhile fun c => !endsAuthority .file c) with
          | error fault =>
            rw [hparse] at h
            cases h
          | ok host =>
            rw [hparse] at h
            cases h
            refine hmade ?_ rfl
            split
            · exact .inl rfl
            · exact .inr ⟨_, hparse⟩
    · cases h
      exact hmade (.inl rfl) rfl
  · cases h
    exact hmade (.inl rfl) rfl

theorem parseOther_scheme (scheme : String) (s : List Char) :
    (parseOther scheme s).scheme = scheme := by
  unfold parseOther
  dsimp only
  split <;> rfl

/-- How a URL is read: as that of a file, with an authority, or without one. -/
theorem parse_eq_ok {text : String} {u : Url} (h : parse text = .ok u) :
    ∃ scheme s, cutScheme? (cleaned text.toList) = some (scheme, s) ∧
      (SchemeKind.of scheme = .file ∧ parseFile s = .ok u ∨
        SchemeKind.of scheme ≠ .file ∧ (∃ t, parseHierarchical scheme t = .ok u) ∨
        SchemeKind.of scheme = .other ∧ (∀ t, s ≠ '/' :: '/' :: t) ∧ u = parseOther scheme s) := by
  unfold parse at h
  split at h
  · cases h
  · rename_i scheme s hcut
    refine ⟨scheme, s, hcut, ?_⟩
    split at h
    · rename_i hfile
      exact .inl ⟨hfile, h⟩
    · rename_i hnetwork
      exact .inr (.inl ⟨by rw [hnetwork]; nofun, _, h⟩)
    · rename_i hother
      split at h
      · exact .inr (.inl ⟨by rw [hother]; nofun, _, h⟩)
      · rename_i hslashes
        cases h
        exact .inr (.inr ⟨hother, fun t ht => hslashes t ht, rfl⟩)

/-- A URL with a scheme that always has a host is read with its authority. -/
theorem parse_network {text : String} {u : Url} (h : parse text = .ok u)
    (hkind : SchemeKind.of u.scheme = .network) :
    ∃ a s rest, u.authority = some a ∧ readAuthority u.scheme s = .ok (a, rest) := by
  obtain ⟨scheme, s, -, ⟨-, hread⟩ | ⟨-, t, hread⟩ | ⟨hother, -, rfl⟩⟩ := parse_eq_ok h
  · rw [(parseFile_eq_ok hread).1] at hkind
    cases hkind
  · obtain ⟨rfl, a, rest, -, hread, ha, -⟩ := parseHierarchical_eq_ok hread
    exact ⟨a, t, rest, ha, hread⟩
  · rw [parseOther_scheme, hother] at hkind
    cases hkind

/-- Such a URL has a host, which is read from some text. -/
theorem parse_network_host {text : String} {u : Url} (h : parse text = .ok u)
    (hkind : SchemeKind.of u.scheme = .network) :
    ∃ a s, u.authority = some a ∧ Host.parse s = .ok a.host := by
  obtain ⟨a, s, rest, ha, hread⟩ := parse_network h hkind
  obtain ⟨-, hostText, -, -, hhost, -⟩ := readAuthority_eq_ok hread
  rw [hostOf, hkind] at hhost
  exact ⟨a, hostText, ha, hhost⟩

end Url

end Carrier
