import Carrier.Proofs.Text.Fields
import Carrier.Proofs.Url.WebSocket

/-!
# Where the parts of a URL end

The text of a URL can be taken apart again, because no part holds a character by which another one
begins: what stands for such a character is encoded, refused, or ends the part where the URL is
read.

- `Url.divides`: the characters that end an authority, or the credentials in front of a host.
- `Percent.mem_encode`: what is left in a text that has been encoded.
- `Url.Formed`: URLs whose scheme and authority end where they should.
- `Url.Obtained`: URLs that have been read, or that are dialed for an origin.
- `Url.Obtained.formed`: they are formed.
-/

namespace Carrier

/-! ### Characters -/

theorem Text.isAlphanum_toLower {c : Char} (h : c.isAlphanum = true) :
    c.toLower.isAlphanum = true := by
  by_cases hupper : c.val ≥ 'A'.val ∧ c.val ≤ 'Z'.val
  · -- an upper-case letter, whose lower case stands 32 places after it
    have hleast : 65 ≤ c.val.toNat := hupper.1
    have hmost : c.val.toNat ≤ 90 := hupper.2
    have hval : c.toLower.val.toNat = c.val.toNat + 32 := by
      unfold Char.toLower
      rw [dif_pos hupper, UInt32.toNat_add]
      have hshift : ('a'.val - 'A'.val).toNat = 32 := rfl
      omega
    have hlower : c.toLower.isLower = true := by
      refine Bool.and_eq_true_iff.mpr ⟨decide_eq_true ?_, decide_eq_true ?_⟩
      · show 97 ≤ c.toLower.val.toNat
        omega
      · show c.toLower.val.toNat ≤ 122
        omega
    show ((c.toLower.isUpper || c.toLower.isLower) || c.toLower.isDigit) = true
    rw [hlower, Bool.or_true, Bool.true_or]
  · have hsame : c.toLower = c := dif_neg hupper
    rw [hsame]
    exact h

namespace Percent

theorem mem_escape {b : UInt8} {c : Char} (h : c ∈ escape b) : c = '%' ∨ c.isAlphanum = true := by
  have hdigits : ∀ d < 16, (Text.hexDigitUpper d).isAlphanum = true := by decide
  have hb : b.toNat < 256 := b.toNat_lt
  simp only [escape, List.mem_cons, List.not_mem_nil, or_false] at h
  rcases h with rfl | rfl | rfl
  · exact .inl rfl
  · exact .inr (hdigits _ (by omega))
  · exact .inr (hdigits _ (by omega))

/-- A text that has been encoded has the ASCII characters that it had, without those of the class, and
the percent sign and the digits of codes. -/
theorem mem_encode {cls : Class} {s : List Char} {c : Char} (h : c ∈ encode cls s) :
    (c ∈ s ∧ cls c = false ∧ c.toNat < 0x80) ∨ c = '%' ∨ c.isAlphanum = true := by
  obtain ⟨d, hd, hc⟩ := List.mem_flatMap.mp h
  unfold encodeChar at hc
  split at hc
  · obtain ⟨b, -, hb⟩ := List.mem_flatMap.mp hc
    exact .inr (mem_escape hb)
  · rename_i hkept
    cases List.mem_singleton.mp hc
    rw [not_or, Nat.not_le, Bool.not_eq_true] at hkept
    exact .inl ⟨hd, hkept.2, hkept.1⟩

/-- ASCII characters that are not in the class are left as they are. -/
theorem encode_of_forall {cls : Class} {s : List Char}
    (h : ∀ c ∈ s, c.toNat < 0x80 ∧ cls c = false) : encode cls s = s := by
  induction s with
  | nil => rfl
  | cons c s ih =>
    obtain ⟨hascii, hcls⟩ := h c List.mem_cons_self
    have hrest := ih fun d hd => h d (List.mem_cons_of_mem c hd)
    unfold encode at hrest ⊢
    rw [List.flatMap_cons, hrest, encodeChar, if_neg (by simp [hcls, hascii])]
    rfl

/-- The text begins as it did, or with the percent sign of a code. -/
theorem encode_cons (cls : Class) (c : Char) (s : List Char) :
    ∃ d t, encode cls (c :: s) = d :: t ∧ (d = c ∨ d = '%') := by
  unfold encode
  rw [List.flatMap_cons, encodeChar]
  split
  · cases hbytes : String.utf8EncodeChar c with
    | nil =>
      have hlength : (String.utf8EncodeChar c).length = c.utf8Size := String.length_utf8EncodeChar c
      rw [hbytes] at hlength
      exact absurd hlength (Nat.ne_of_lt c.utf8Size_pos)
    | cons b bytes => exact ⟨'%', _, rfl, .inr rfl⟩
  · exact ⟨c, _, rfl, .inl rfl⟩

end Percent

namespace Url

/-- Characters that end an authority, or the credentials in it. -/
def divides (c : Char) : Bool := c == '/' || c == '?' || c == '#' || c == '@'

theorem divides_cases {c : Char} (h : divides c = true) :
    c = '/' ∨ c = '?' ∨ c = '#' ∨ c = '@' := by
  simpa [divides, or_assoc] using h

/-- A class of characters that has none of these can be told from them. -/
theorem divides_eq_false_of {p : Char → Bool} {c : Char} (hc : p c = true)
    (hslash : p '/' = false) (hquery : p '?' = false) (hfragment : p '#' = false)
    (hsign : p '@' = false) : divides c = false := by
  cases hdivides : divides c with
  | false => rfl
  | true =>
    rcases divides_cases hdivides with rfl | rfl | rfl | rfl <;> simp_all

theorem divides_of_inAddress {c : Char} (h : Host.inAddress c = true) : divides c = false :=
  divides_eq_false_of h (by decide) (by decide) (by decide) (by decide)

theorem endsAuthority_other {c : Char} (h : divides c = false) :
    endsAuthority .other c = false := by
  simp only [divides, Bool.or_eq_false_iff] at h
  simp [endsAuthority, h, SchemeKind.isSpecial]

/-- Encoding leaves none of them that the text did not have, nor any that it encodes. -/
theorem divides_encode {cls : Percent.Class} {s : List Char}
    (h : ∀ c ∈ s, divides c = true → cls c = true) :
    ∀ c ∈ Percent.encode cls s, divides c = false := by
  intro c hc
  rcases Percent.mem_encode hc with ⟨hmem, hcls, -⟩ | rfl | halphanum
  · cases hdivides : divides c with
    | false => rfl
    | true =>
      rw [h c hmem hdivides] at hcls
      cases hcls
  · decide
  · exact divides_eq_false_of halphanum (by decide) (by decide) (by decide) (by decide)

end Url

/-! ### Authorities -/

/-- An authority none of whose parts has a character that ends it. -/
structure Authority.Formed (a : Authority) : Prop where
  /-- The user name ends before a password or a host. -/
  username : ∀ c ∈ a.username.toList, Url.divides c = false
  /-- The password ends before a host. -/
  password : ∀ c ∈ a.password.toList, Url.divides c = false
  /-- The host ends before a port or a path. -/
  host : ∀ c ∈ a.host.shown.toList, Url.divides c = false

namespace Url

/-- User name and password are encoded. -/
theorem cutCredentials_divides {kind : SchemeKind} {s rest : List Char}
    {username password : String} (h : cutCredentials kind s = .ok (username, password, rest)) :
    (∀ c ∈ username.toList, divides c = false) ∧ ∀ c ∈ password.toList, divides c = false := by
  have hencoded (t : List Char) :
      ∀ c ∈ (String.ofList (Percent.encode Percent.userinfo t)).toList, divides c = false := by
    rw [String.toList_ofList]
    refine divides_encode fun c _ hdivides => ?_
    rcases divides_cases hdivides with rfl | rfl | rfl | rfl <;> decide
  have hnone : ∀ c ∈ "".toList, divides c = false := nofun
  unfold cutCredentials at h
  dsimp only at h
  split at h
  · cases h
    exact ⟨hnone, hnone⟩
  · split at h
    · split at h
      · cases h
      · cases h
        exact ⟨hnone, hnone⟩
    · unfold readCredentials at h
      dsimp only at h
      split at h <;> cases h
      · exact ⟨hencoded _, hencoded _⟩
      · exact ⟨hencoded _, hnone⟩

/-- The name of a host without a special scheme is encoded, and has no character that ends it. -/
theorem parseOpaque_domain {s : List Char} {name : String}
    (h : Host.parseOpaque s = .ok (.domain name)) :
    name = String.ofList (Percent.encode Percent.controls s) ∧ ∀ c ∈ s, Host.ends c = false := by
  unfold Host.parseOpaque at h
  split at h
  · unfold Host.parseBracketed at h
    split at h
    · split at h <;> cases h
    · cases h
  · split at h
    · cases h
    · rename_i hends
      cases h
      exact ⟨rfl, by simpa using hends⟩

theorem hostOf_divides {kind : SchemeKind} {text : List Char} {host : Host}
    (h : hostOf kind text = .ok host) : ∀ c ∈ host.shown.toList, divides c = false := by
  cases host with
  | ipv4 address => exact fun c hc => divides_of_inAddress (address.inAddress_shown c hc)
  | ipv6 address =>
    intro c hc
    have hopen : "[".toList = ['['] := rfl
    have hclose : "]".toList = [']'] := rfl
    simp only [Host.shown, String.toList_append, hopen, hclose, List.mem_append,
      List.mem_singleton] at hc
    rcases hc with (rfl | hc) | rfl
    · decide
    · exact divides_of_inAddress (address.inAddress_shown c hc)
    · decide
  | domain name =>
    intro c hc
    change c ∈ name.toList at hc
    unfold hostOf at h
    split at h
    · have hallowed := (Host.parse_domain h).2 c hc
      refine divides_eq_false_of (p := fun c => !Domain.forbidden c) ?_ ?_ ?_ ?_ ?_
      · rw [hallowed]
        rfl
      all_goals decide
    · obtain ⟨rfl, hfree⟩ := parseOpaque_domain h
      rw [String.toList_ofList] at hc
      refine divides_encode (fun d hd hdivides => ?_) c hc
      have hends := hfree d hd
      rcases divides_cases hdivides with rfl | rfl | rfl | rfl <;> exact absurd hends (by decide)

theorem readAuthority_formed {scheme : String} {s rest : List Char} {a : Authority}
    (h : readAuthority scheme s = .ok (a, rest)) : a.Formed := by
  obtain ⟨t, text, port, hcredentials, hhost, -⟩ := readAuthority_eq_ok h
  obtain ⟨husername, hpassword⟩ := cutCredentials_divides hcredentials
  exact ⟨husername, hpassword, hostOf_divides hhost⟩

/-! ### What follows the scheme -/

/-- Query and fragment, each with the character that begins it. -/
def tailText (u : Url) : String := u.query.elim "" ("?" ++ ·) ++ u.fragment.elim "" ("#" ++ ·)

/-- What follows the colon of the scheme. -/
def afterScheme (u : Url) : String := u.authorityText ++ u.path.shown ++ u.tailText

theorem href_eq (u : Url) : u.href = u.scheme ++ ":" ++ u.afterScheme := by
  simp only [href, afterScheme, tailText, String.append_assoc]

/-- Query and fragment begin with a character of their own. -/
theorem tailText_cons {u : Url} {c : Char} {t : List Char} (h : u.tailText.toList = c :: t) :
    c = '?' ∨ c = '#' := by
  have hquery : "?".toList = ['?'] := rfl
  have hfragment : "#".toList = ['#'] := rfl
  unfold tailText at h
  cases hq : u.query with
  | some query =>
    rw [hq] at h
    simp only [Option.elim_some, String.toList_append, hquery, List.cons_append,
      List.cons.injEq] at h
    exact .inl h.1.symm
  | none =>
    cases hf : u.fragment with
    | some fragment =>
      rw [hq, hf] at h
      simp only [Option.elim_none, Option.elim_some, String.toList_append, hfragment,
        String.toList_empty, List.nil_append, List.cons_append, List.cons.injEq] at h
      exact .inr h.1.symm
    | none =>
      rw [hq, hf] at h
      simp at h

theorem tailText_ne_slash (u : Url) (t : List Char) : u.tailText.toList ≠ '/' :: t := by
  intro h
  rcases tailText_cons h with h | h <;> cases h

/-- Segments begin with the slash in front of the first of them. -/
theorem shown_segments_cons (part : String) (parts : List String) :
    (UrlPath.segments (part :: parts)).shown.toList =
      '/' :: (part.toList ++ (UrlPath.segments parts).shown.toList) := by
  have hslash : "/".toList = ['/'] := rfl
  simp [UrlPath.shown, String.join_cons, hslash]

/-! ### Segments -/

theorem leave_subset {out : List (List Char)} : leave out ⊆ out := by
  unfold leave
  split
  · exact List.Subset.refl _
  · split
    · exact List.Subset.refl _
    · exact List.subset_cons_self _ _

/-- No segment has a slash. -/
theorem slash_resolve {out pieces : List (List Char)} (hout : ∀ part ∈ out, '/' ∉ part)
    (hpieces : ∀ piece ∈ pieces, '/' ∉ piece) : ∀ part ∈ resolve out pieces, '/' ∉ part := by
  have hleft {out : List (List Char)} (hout : ∀ part ∈ out, '/' ∉ part) :
      ∀ part ∈ leave out, '/' ∉ part := fun part hpart => hout part (leave_subset hpart)
  have hempty {out : List (List Char)} (hout : ∀ part ∈ out, '/' ∉ part) :
      ∀ part ∈ [] :: out, '/' ∉ part := by
    simpa using hout
  -- the segments that have been passed hold no slash, whatever is left of the pieces
  induction pieces generalizing out with
  | nil => exact hout
  | cons piece rest ih =>
    have hrest := fun other hother => hpieces other (List.mem_cons_of_mem piece hother)
    have hencoded : '/' ∉ Percent.encode Percent.path piece := by
      intro hmem
      rcases Percent.mem_encode hmem with ⟨hpiece, -⟩ | hpercent | halphanum
      · exact hpieces piece List.mem_cons_self hpiece
      · cases hpercent
      · cases halphanum
    rw [resolve]
    refine ih ?_ hrest
    split
    · split
      · exact hempty (hleft hout)
      · exact hleft hout
    · split
      · split
        · exact hempty hout
        · exact hout
      · intro part hpart
        rcases List.mem_cons.mp hpart with rfl | hpart
        · exact hencoded
        · exact hout part hpart

theorem slash_segments {s : List Char} : ∀ part ∈ segments .other s, '/' ∉ part.toList := by
  intro part hpart
  obtain ⟨piece, hpiece, rfl⟩ := List.mem_map.mp hpart
  rw [String.toList_ofList]
  refine slash_resolve (by simp) ?_ piece (List.mem_reverse.mp hpiece)
  exact fun piece hpiece => Text.not_mem_of_mem_fields hpiece

/-! ### Formed URLs -/

/-- Segments are not taken for an authority: they are kept apart from the scheme, or no slash follows
the first one. -/
theorem segments_apart {u : Url} {parts : List String} (hnone : u.authority = none)
    (hpath : u.path = .segments parts) (hparts : ∀ part ∈ parts, '/' ∉ part.toList) :
    ∀ t, u.afterScheme.toList ≠ '/' :: '/' :: t := by
  intro t ht
  rw [afterScheme, String.toList_append, String.toList_append, hpath] at ht
  -- two slashes would come of an empty first segment that another one follows
  by_cases hmarked : ∃ next rest, parts = "" :: next :: rest
  · obtain ⟨next, rest, rfl⟩ := hmarked
    have hmark : u.authorityText = "/." := by
      simp [authorityText, hnone, hpath]
    rw [hmark] at ht
    cases ht
  · have hmark : u.authorityText = "" := by
      unfold authorityText
      rw [hnone, hpath]
      dsimp only
      split
      · rename_i next rest hparts
        cases hparts
        exact absurd ⟨next, rest, rfl⟩ hmarked
      · rfl
    rw [hmark, String.toList_empty, List.nil_append] at ht
    cases parts with
    | nil => exact u.tailText_ne_slash _ ht
    | cons part rest =>
      have hslash := hparts part List.mem_cons_self
      rw [shown_segments_cons, List.cons_append, List.append_assoc] at ht
      have hnext := (List.cons.inj ht).2
      cases hpart : part.toList with
      | cons c cs =>
        rw [hpart] at hnext hslash
        obtain ⟨rfl, -⟩ := List.cons.inj hnext
        exact hslash List.mem_cons_self
      | nil =>
        cases rest with
        | nil =>
          rw [hpart] at hnext
          exact u.tailText_ne_slash t hnext
        | cons next rest =>
          have hempty : part = "" := String.toList_eq_nil_iff.mp hpart
          exact hmarked ⟨next, rest, by rw [hempty]⟩

/-- Neither is any other path that does not begin with a slash. -/
theorem whole_apart {u : Url} {text : String} (hnone : u.authority = none)
    (hpath : u.path = .whole text) (htext : ∀ t, text.toList ≠ '/' :: t) :
    ∀ t, u.afterScheme.toList ≠ '/' :: '/' :: t := by
  intro t ht
  have hmark : u.authorityText = "" := by
    unfold authorityText
    rw [hnone, hpath]
  rw [afterScheme, String.toList_append, String.toList_append, hmark, hpath, String.toList_empty,
    List.nil_append, UrlPath.shown] at ht
  cases hchars : text.toList with
  | nil =>
    rw [hchars, List.nil_append] at ht
    exact u.tailText_ne_slash _ ht
  | cons c cs =>
    rw [hchars, List.cons_append] at ht
    obtain ⟨rfl, -⟩ := List.cons.inj ht
    exact htext cs hchars

/-- What follows the scheme of a URL that is read without an authority is not taken for one. -/
theorem parseOther_apart (scheme : String) (s : List Char) :
    (parseOther scheme s).authority = none ∧
      ∀ t, (parseOther scheme s).afterScheme.toList ≠ '/' :: '/' :: t := by
  unfold parseOther
  dsimp only
  split
  · exact ⟨rfl, segments_apart rfl rfl fun _ hpart => slash_segments _ hpart⟩
  · rename_i hslash
    refine ⟨rfl, whole_apart rfl rfl fun t ht => ?_⟩
    rw [String.toList_ofList] at ht
    cases hpath : (cutTail .other s).1 with
    | nil =>
      rw [hpath] at ht
      cases ht
    | cons c cs =>
      obtain ⟨d, more, hencoded, hd⟩ := Percent.encode_cons Percent.controls c cs
      rw [hpath, hencoded] at ht
      obtain ⟨rfl, -⟩ := List.cons.inj ht
      rcases hd with rfl | hd
      · exact hslash cs hpath
      · cases hd

end Url

/-- A URL whose parts end where they should. -/
structure Url.Formed (u : Url) : Prop where
  /-- The scheme ends before the colon. -/
  scheme : ∀ c ∈ u.scheme.toList, Url.inScheme c = true
  /-- An authority ends before the path, which begins with a slash if there is one. -/
  authority : ∀ a, u.authority = some a → a.Formed ∧ ∃ parts, u.path = .segments parts
  /-- What follows the scheme is not taken for an authority. -/
  apart : u.authority = none → ∀ t, u.afterScheme.toList ≠ '/' :: '/' :: t

namespace Url

theorem inScheme_toLower {c : Char} (h : inScheme c = true) : inScheme c.toLower = true := by
  have hsigns : inScheme c = true ↔ c.isAlphanum = true ∨ c = '+' ∨ c = '-' ∨ c = '.' := by
    simp [inScheme, or_assoc]
  rcases hsigns.mp h with halphanum | rfl | rfl | rfl
  · simp [inScheme, Text.isAlphanum_toLower halphanum]
  all_goals decide

theorem cutScheme?_chars {s rest : List Char} {scheme : String}
    (h : cutScheme? s = some (scheme, rest)) : ∀ c ∈ scheme.toList, inScheme c = true := by
  unfold cutScheme? at h
  split at h
  · split at h
    · rename_i hscheme
      cases h
      have hall := (Bool.and_eq_true_iff.mp hscheme).2
      rw [String.toList_ofList]
      intro c hc
      obtain ⟨d, hd, rfl⟩ := List.mem_map.mp hc
      exact inScheme_toLower (List.all_eq_true.mp hall d hd)
    · cases h
  · cases h

theorem parse_formed {text : String} {u : Url} (h : parse text = .ok u) : u.Formed := by
  obtain ⟨scheme, s, hcut, hread⟩ := parse_eq_ok h
  have hscheme := cutScheme?_chars hcut
  rcases hread with ⟨-, hread⟩ | ⟨-, t, hread⟩ | ⟨-, -, rfl⟩
  · obtain ⟨hname, host, parts, ha, hpath, hhost⟩ := parseFile_eq_ok hread
    refine ⟨?_, fun b hb => ?_, fun hnone => ?_⟩
    · rw [hname]
      exact List.all_eq_true.mp (by decide)
    · cases ha.symm.trans hb
      refine ⟨⟨nofun, nofun, ?_⟩, parts, hpath⟩
      rcases hhost with rfl | ⟨text, hhost⟩
      · exact nofun
      · have hread : hostOf .file text = .ok host := hhost
        exact hostOf_divides hread
    · cases ha.symm.trans hnone
  · obtain ⟨rfl, a, rest, parts, hread, ha, hpath⟩ := parseHierarchical_eq_ok hread
    refine ⟨hscheme, fun b hb => ?_, fun hnone => ?_⟩
    · cases ha.symm.trans hb
      exact ⟨readAuthority_formed hread, parts, hpath⟩
    · cases ha.symm.trans hnone
  · obtain ⟨hnone, hapart⟩ := parseOther_apart scheme s
    refine ⟨?_, fun a ha => ?_, fun _ => hapart⟩
    · rwa [parseOther_scheme]
    · cases hnone.symm.trans ha

end Url

/-- URLs that there are: those that are read, and those that are dialed. -/
inductive Url.Obtained (u : Url) : Prop where
  /-- It is read. -/
  | read {text : String} (h : Url.parse text = .ok u)
  /-- It is dialed for an origin. -/
  | dialed {o : DialOptions} (h : o.webSocketUrl = .ok u)

theorem Url.Obtained.formed {u : Url} (h : u.Obtained) : u.Formed := by
  cases h with
  | read h => exact parse_formed h
  | @dialed o h =>
    obtain ⟨-, v, carrier, hread, hcarried, rfl⟩ := DialOptions.webSocketUrl_eq_ok_iff.mp h
    have hv := parse_formed hread
    have hcarrier : carrier.toList.all inScheme = true := by
      generalize v.scheme = scheme at hcarried
      cases hcarried <;> decide
    exact ⟨List.all_eq_true.mp hcarrier, hv.authority, hv.apart⟩

end Carrier
