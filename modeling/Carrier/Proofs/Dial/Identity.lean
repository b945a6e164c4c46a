import Carrier.Proofs.Url.WebSocket

/-!
# The name that is proved and the host that is dialed

A server is asked to prove the name of the host that is dialed. The two texts are made apart from
each other: the one has the brackets of an address taken away, the other is written anew. For an
address of 128 bits they can differ, and still each of them is read as that address.

- `Host.Denotes`: texts without brackets that stand for a host.
- `DialOptions.serverName_dialed`: the name that is proved and the host that is dialed stand for the
  host of the URL.
-/

namespace Carrier

namespace Host

/-- `h.Denotes text`: outside of URLs, where nothing stands in brackets, a text stands for `h`. -/
inductive Denotes : Host → String → Prop where
  /-- A name stands for itself. -/
  | domain (name : String) : Denotes (.domain name) name
  /-- A text is read as an address of 32 bits. -/
  | ipv4 {address : Ipv4} {text : String} (read : Ipv4.parse? text.toList = some address) :
    Denotes (.ipv4 address) text
  /-- A text without brackets is read as an address of 128 bits. -/
  | ipv6 {address : Ipv6} {text : String} (free : ∀ c ∈ text.toList, isBracket c = false)
    (read : Ipv6.parse? text.toList = some address) : Denotes (.ipv6 address) text

variable {s : List Char} {h : Host}

theorem denotes_bare (hread : parse s = .ok h) : h.Denotes h.bare := by
  cases h with
  | domain name => exact .domain name
  | ipv4 address => exact .ipv4 address.parse?_shown
  | ipv6 address =>
    exact .ipv6 (fun c hc => isBracket_eq_false (address.inAddress_shown c hc))
      (Ipv6.parse?_shown (fits_of_parse hread))

theorem denotes_dialed (hread : parse s = .ok h) : h.Denotes h.dialed := by
  cases h with
  | domain name => exact .domain name
  | ipv4 address => exact .ipv4 address.parse?_shown
  | ipv6 address =>
    exact .ipv6 (fun c hc => isBracket_eq_false (address.inAddress_shownMapped c hc))
      (Ipv6.parse?_shownMapped (fits_of_parse hread))

/-- Only for an address of 128 bits are the two texts not the same. -/
theorem bare_eq_dialed (hshort : ∀ address, h ≠ .ipv6 address) : h.bare = h.dialed := by
  cases h with
  | domain name => rfl
  | ipv4 address => rfl
  | ipv6 address => exact absurd rfl (hshort address)

end Host

namespace DialOptions

variable {o : DialOptions} {u : Url}

/-- Without terms of TLS the host of the URL is to be proved, as it is named outside of URLs. -/
theorem serverName_bare (hplain : o.tls = none) (hurl : o.webSocketUrl = .ok u) {a : Authority}
    {s : List Char} (ha : u.authority = some a) (hread : Host.parse s = .ok a.host) :
    o.serverName = .ok a.host.bare := by
  have hshown : u.hostText? = some a.host.shown := by
    rw [Url.hostText?, ha]
    exact if_neg (Host.parse_ne_empty hread)
  rw [serverName, hplain, hurl]
  show Except.ok (unbracketed (u.hostText?.getD "")) = .ok a.host.bare
  rw [hshown, Option.getD_some, Host.unbracketed_shown hread]

/-- The server is asked to prove the host that is dialed. Where there is a URL to dial, and no terms
of TLS that name another server, there is a name to be proved, and it stands for the host of that
URL, as does the text that is dialed. A domain name and an address of 32 bits are the same text both
times; for an address of 128 bits each text has no brackets and is read as the address. -/
theorem serverName_dialed (hplain : o.tls = none) (hurl : o.webSocketUrl = .ok u) :
    ∃ name a, o.serverName = .ok name ∧ u.authority = some a ∧
      a.host.Denotes name ∧ a.host.Denotes u.dialHost ∧
      ((∀ address, a.host ≠ .ipv6 address) → name = u.dialHost) := by
  obtain ⟨-, v, carrier, hparse, hcarried, rfl⟩ := webSocketUrl_eq_ok_iff.mp hurl
  obtain ⟨a, s, ha, hread⟩ := Url.parse_network_host hparse hcarried.network.1
  have hdialed : Url.dialHost { v with scheme := carrier } = a.host.dialed := by
    simp only [Url.dialHost, ha]
  rw [hdialed]
  exact ⟨a.host.bare, a, serverName_bare hplain hurl ha hread, ha, Host.denotes_bare hread,
    Host.denotes_dialed hread, Host.bare_eq_dialed⟩

/-- A mapped IPv4 address, of which the two texts are not the same. -/
theorem serverName_dialed_mapped :
    ∃ (o : DialOptions) (u : Url), o.origin = "https://[0::FFFF:1.2.3.4]" ∧ o.tls = none ∧
      o.webSocketUrl = .ok u ∧ o.serverName = .ok "::ffff:102:304" ∧
      u.dialHost = "::ffff:1.2.3.4" ∧
      ∃ name a, o.serverName = .ok name ∧ u.authority = some a ∧
        a.host.Denotes name ∧ a.host.Denotes u.dialHost ∧
        ((∀ address, a.host ≠ .ipv6 address) → name = u.dialHost) := by
  have hurl : webSocketUrl { origin := "https://[0::FFFF:1.2.3.4]" } = .ok
      ⟨"wss", some ⟨"", "", .ipv6 ⟨[0, 0, 0, 0, 0, 0xffff, 0x102, 0x304], rfl⟩, none⟩,
        .segments [""], none, none⟩ := by rfl
  exact ⟨_, _, rfl, rfl, hurl, by rfl, by rfl, serverName_dialed rfl hurl⟩

end DialOptions

end Carrier
