import Carrier.DialOptions
import Carrier.Proofs.Url.Address

/-!
# Hosts without brackets

- `Host.bare`: a host as it is named outside of URLs.
- `Host.parse_domain`, `Host.fits_of_parse`: which names and addresses are read from the host of a
  URL.
- `Host.inAddress`: what addresses are written with.
- `Host.shown_ne_empty`, `Host.dialed_ne_empty`: a host that is not the empty name is no empty text.
- `Host.unbracketed_shown`: the brackets of an address are all that is taken away from a host.
-/

namespace Carrier

/-! ### Names -/

/-- No name that is brought into its ASCII form holds a character that domain names do not. -/
theorem Domain.toAscii?_allowed {name ascii : List Char} (h : toAscii? name = some ascii) :
    ∀ c ∈ ascii, forbidden c = false := by
  unfold toAscii? at h
  simp only at h
  split at h
  · split at h
    · cases h
    · rename_i hallowed
      cases h
      simpa using hallowed
  · cases h

namespace Host

/-- What is read between brackets is an address. -/
theorem parseBracketed_eq_ok {s : List Char} {h : Host} (hread : parseBracketed s = .ok h) :
    ∃ address : Ipv6, h = .ipv6 address ∧ address.Fits := by
  unfold parseBracketed at hread
  split at hread
  · split at hread
    · rename_i address haddress
      cases hread
      exact ⟨address, rfl, Ipv6.fits_of_parse? haddress⟩
    · cases hread
  · cases hread

/-- A name that is read is not empty, and is the ASCII form of some name. -/
theorem parse_domain_toAscii? {s : List Char} {name : String} (h : parse s = .ok (.domain name)) :
    name ≠ "" ∧ ∃ decoded, Domain.toAscii? decoded = some name.toList := by
  unfold parse at h
  split at h
  · obtain ⟨address, haddress, -⟩ := parseBracketed_eq_ok h
    cases haddress
  · split at h
    · cases h
    · cases h
    · rename_i ascii hne hascii
      split at h
      · split at h <;> cases h
      · cases h
        obtain ⟨decoded, -, htoAscii⟩ := Option.bind_eq_some_iff.mp hascii
        refine ⟨?_, decoded, ?_⟩
        · intro hempty
          exact hne (String.ofList_injective hempty)
        · rw [String.toList_ofList]
          exact htoAscii

/-- A name that is read has characters, all of which domain names may hold. -/
theorem parse_domain {s : List Char} {name : String} (h : parse s = .ok (.domain name)) :
    name ≠ "" ∧ ∀ c ∈ name.toList, Domain.forbidden c = false := by
  obtain ⟨hne, decoded, htoAscii⟩ := parse_domain_toAscii? h
  exact ⟨hne, Domain.toAscii?_allowed htoAscii⟩

theorem fits_of_parse {s : List Char} {address : Ipv6} (h : parse s = .ok (.ipv6 address)) :
    address.Fits := by
  unfold parse at h
  split at h
  · obtain ⟨found, hfound, hfits⟩ := parseBracketed_eq_ok h
    cases hfound
    exact hfits
  · split at h
    · cases h
    · cases h
    · split at h
      · split at h <;> cases h
      · cases h

/-- A host as it is named outside of URLs: an address has no brackets. -/
def bare : Host → String
  | .domain name => name
  | .ipv4 address => address.shown
  | .ipv6 address => address.shown

end Host

/-! ### Addresses -/

/-- Characters that addresses are written with. -/
def Host.inAddress (c : Char) : Bool := c.isAlphanum || c == '.' || c == ':'

theorem Host.inAddress_cases {c : Char} (h : inAddress c = true) :
    c.isAlphanum = true ∨ c = '.' ∨ c = ':' := by
  simpa [inAddress, or_assoc] using h

/-- Numbers and what stands between them are such characters. -/
theorem Host.inAddress_numerals {base : Nat} {sep : Char} (hbase : 1 < base) (hsmall : base ≤ 16)
    (hsep : inAddress sep = true) (ns : List Nat) :
    ∀ c ∈ Text.numerals base sep ns, inAddress c = true := by
  intro c hc
  rcases Text.mem_numerals hbase hsmall hc with rfl | halphanum
  · exact hsep
  · simp [inAddress, halphanum]

theorem Host.inAddress_toString (n : Nat) : ∀ c ∈ (toString n).toList, inAddress c = true := by
  intro c hc
  rw [Text.toList_toString] at hc
  simp [inAddress, Text.isAlphanum_toDigits (by decide) (by decide) hc]

theorem Ipv4.inAddress_shown (a : Ipv4) : ∀ c ∈ a.shown.toList, Host.inAddress c = true := by
  rw [toList_shown]
  exact Host.inAddress_numerals (by decide) (by decide) rfl _

theorem Ipv6.inAddress_joined (gs : List Nat) :
    ∀ c ∈ (joined gs).toList, Host.inAddress c = true := by
  rw [toList_joined]
  exact Host.inAddress_numerals (by decide) (by decide) rfl gs

theorem Ipv6.inAddress_shown (a : Ipv6) : ∀ c ∈ a.shown.toList, Host.inAddress c = true := by
  unfold shown
  split
  · exact inAddress_joined a.groups
  · rename_i i n _
    intro c hc
    have hcolons : "::".toList = [':', ':'] := rfl
    rw [String.toList_append, String.toList_append, hcolons] at hc
    simp only [List.mem_append, List.mem_cons, List.not_mem_nil, or_false] at hc
    rcases hc with (hc | rfl | rfl) | hc
    · exact inAddress_joined _ c hc
    · rfl
    · rfl
    · exact inAddress_joined _ c hc

theorem Ipv6.inAddress_shownMapped (a : Ipv6) :
    ∀ c ∈ a.shownMapped.toList, Host.inAddress c = true := by
  unfold shownMapped
  split
  · rename_i g h _
    intro c hc
    have hmark : ∀ c ∈ "::ffff:".toList, Host.inAddress c = true := by
      simp [Host.inAddress]
    have hquad := Text.toList_intercalate_toString '.' (quad g h)
    rw [String.toList_append] at hc
    rcases List.mem_append.mp hc with hc | hc
    · exact hmark c hc
    · exact Host.inAddress_numerals (by decide) (by decide) rfl _ c (hquad ▸ hc)
  · exact a.inAddress_shown

/-! ### Texts that are not empty -/

theorem intercalate_ne_empty {sep first second : String} {rest : List String} (hsep : sep ≠ "") :
    sep.intercalate (first :: second :: rest) ≠ "" := by
  intro h
  have hlist := congrArg String.toList h
  rw [String.toList_intercalate, List.map_cons, List.map_cons, List.intercalate_cons_cons] at hlist
  have hempty : sep.toList = [] := by
    simp only [String.toList_empty, List.append_eq_nil_iff] at hlist
    exact hlist.1.2
  exact hsep (String.toList_eq_nil_iff.mp hempty)

theorem append_ne_empty {s t : String} (hs : s ≠ "") : s ++ t ≠ "" := by
  intro h
  have hlist := congrArg String.toList h
  rw [String.toList_append, String.toList_empty, List.append_eq_nil_iff] at hlist
  exact hs (String.toList_eq_nil_iff.mp hlist.1)

theorem Ipv4.shown_ne_empty (a : Ipv4) : a.shown ≠ "" := intercalate_ne_empty (by decide)

theorem Ipv6.shown_ne_empty (a : Ipv6) : a.shown ≠ "" := by
  unfold shown
  split
  · obtain ⟨groups, height⟩ := a
    match groups, height with
    | first :: second :: rest, _ => exact intercalate_ne_empty (by decide)
  · rw [String.append_assoc]
    intro h
    have hlist := congrArg String.toList h
    simp only [String.toList_append, String.toList_empty, List.append_eq_nil_iff] at hlist
    exact absurd hlist.2.1 (by decide)

theorem Ipv6.shownMapped_ne_empty (a : Ipv6) : a.shownMapped ≠ "" := by
  unfold shownMapped
  split
  · exact append_ne_empty (by decide)
  · exact a.shown_ne_empty

/-- Only the name that is empty is dialed as an empty text. -/
theorem Host.dialed_ne_empty {h : Host} (hne : h ≠ .domain "") : h.dialed ≠ "" := by
  cases h with
  | domain name =>
    intro hname
    change name = "" at hname
    exact hne (congrArg Host.domain hname)
  | ipv4 address => exact address.shown_ne_empty
  | ipv6 address => exact address.shownMapped_ne_empty

/-- Only the name that is empty is written as an empty text. -/
theorem Host.shown_ne_empty {h : Host} (hne : h ≠ .domain "") : h.shown ≠ "" := by
  cases h with
  | domain name =>
    intro hname
    change name = "" at hname
    exact hne (congrArg Host.domain hname)
  | ipv4 address => exact address.shown_ne_empty
  | ipv6 address => exact append_ne_empty (append_ne_empty (by decide))

/-! ### Brackets -/

/-- Whether a character stands around an address in a URL. -/
def Host.isBracket (c : Char) : Bool := c == '[' || c == ']'

theorem Host.isBracket_cases {c : Char} (h : isBracket c = true) : c = '[' ∨ c = ']' := by
  simpa [isBracket] using h

theorem Host.isBracket_eq_false {c : Char} (h : inAddress c = true) : isBracket c = false := by
  rw [← Bool.not_eq_true]
  intro hbracket
  rcases isBracket_cases hbracket with rfl | rfl
  · exact absurd h (by decide)
  · exact absurd h (by decide)

theorem Text.dropWhile_of_forall {p : Char → Bool} {s : List Char} (h : ∀ c ∈ s, p c = false) :
    s.dropWhile p = s := by
  cases s with
  | nil => rfl
  | cons c rest => exact List.dropWhile_cons_of_neg (by simp [h c List.mem_cons_self])

theorem Text.dropEndWhile_of_forall {p : Char → Bool} {s : List Char}
    (h : ∀ c ∈ s, p c = false) : dropEndWhile p s = s := by
  have hhead : s.reverse.dropWhile p = s.reverse :=
    dropWhile_of_forall fun c hc => h c (List.mem_reverse.mp hc)
  rw [dropEndWhile, hhead, List.reverse_reverse]

theorem Text.dropEndWhile_concat {p : Char → Bool} {s : List Char} {c : Char} (h : p c = true) :
    dropEndWhile p (s ++ [c]) = dropEndWhile p s := by
  unfold dropEndWhile
  rw [List.reverse_append, List.reverse_singleton, List.singleton_append,
    List.dropWhile_cons_of_pos h]

/-- Nothing is taken away from a text without brackets. -/
theorem DialOptions.unbracketed_of_forall {s : String}
    (h : ∀ c ∈ s.toList, Host.isBracket c = false) : unbracketed s = s := by
  have hopen : ∀ c ∈ s.toList, (c == '[') = false := by
    intro c hc
    have := h c hc
    simp_all [Host.isBracket]
  have hclose : ∀ c ∈ s.toList, (c == ']') = false := by
    intro c hc
    have := h c hc
    simp_all [Host.isBracket]
  rw [unbracketed, Text.dropWhile_of_forall hopen, Text.dropEndWhile_of_forall hclose,
    String.ofList_toList]

theorem DialOptions.unbracketed_bracketed {s : String}
    (h : ∀ c ∈ s.toList, Host.isBracket c = false) : unbracketed ("[" ++ s ++ "]") = s := by
  have hsame := unbracketed_of_forall h
  have hchars : ("[" ++ s ++ "]").toList = '[' :: (s.toList ++ [']']) := by
    have hopen : "[".toList = ['['] := rfl
    have hclose : "]".toList = [']'] := rfl
    rw [String.toList_append, String.toList_append, hopen, hclose]
    rfl
  have hstart : ('[' :: (s.toList ++ [']'])).dropWhile (· == '[')
      = s.toList.dropWhile (· == '[') ++ [']'] := by
    rw [List.dropWhile_cons_of_pos (by rfl)]
    cases hs : s.toList with
    | nil => rfl
    | cons c rest =>
      have hc := h c (hs ▸ List.mem_cons_self)
      have hne : (c == '[') = false := by simp_all [Host.isBracket]
      simp [hne]
  rw [unbracketed, hchars, hstart, Text.dropEndWhile_concat (by rfl)]
  exact hsame

/-- Without brackets the host of a URL is what it is named outside of URLs. -/
theorem Host.unbracketed_shown {s : List Char} {h : Host} (hparse : parse s = .ok h) :
    DialOptions.unbracketed h.shown = h.bare := by
  cases h with
  | domain name =>
    refine DialOptions.unbracketed_of_forall ?_
    intro c hc
    have hallowed := (parse_domain hparse).2 c hc
    -- brackets are among the characters that no name holds
    rw [← Bool.not_eq_true]
    intro hbracket
    rcases isBracket_cases hbracket with rfl | rfl
    · exact absurd hallowed (by decide)
    · exact absurd hallowed (by decide)
  | ipv4 address =>
    exact DialOptions.unbracketed_of_forall fun c hc =>
      isBracket_eq_false (address.inAddress_shown c hc)
  | ipv6 address =>
    exact DialOptions.unbracketed_bracketed fun c hc =>
      isBracket_eq_false (address.inAddress_shown c hc)

end Carrier
