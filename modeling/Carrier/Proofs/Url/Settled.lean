import Carrier.Proofs.Url.Parts

/-!
# Hosts that are read again

The host of a URL is written in a normal form, which is one for URLs without a special scheme as
well: what is written is read there as it stands. Names that have been brought into their ASCII form
and names that have been encoded hold the same kind of characters.

- `Punycode.isAlphanum_encode`, `Domain.toAscii?_isAscii`: the ASCII form of a name is ASCII.
- `Host.stays`: the characters of a name that is read as it stands.
- `Host.Settled`: such names, and addresses in brackets.
- `Host.settled_shown`: the host of any URL is written in one of these ways.
- `Host.Settled.parseOpaque`, `Host.Settled.cutHost`: what is written so is read as it stands.
-/

namespace Carrier

/-! ### ASCII characters -/

/-- What holds of each code point below 128 holds of the ASCII characters. -/
theorem Text.of_ascii {P : Char → Prop} (hall : ∀ n < 0x80, P (Char.ofNat n)) {c : Char}
    (h : c.toNat < 0x80) : P c := by
  have hc := hall c.toNat h
  rwa [Char.ofNat_toNat] at hc

theorem Text.toNat_lt_of_isAlphanum {c : Char} (h : c.isAlphanum = true) : c.toNat < 0x80 := by
  have hbound (low high : UInt32)
      (hrange : (decide (c.val ≥ low) && decide (c.val ≤ high)) = true) :
      c.toNat ≤ high.toNat := of_decide_eq_true (Bool.and_eq_true_iff.mp hrange).2
  rcases Bool.or_eq_true_iff.mp h with hletter | hdigit
  · rcases Bool.or_eq_true_iff.mp hletter with hupper | hlower
    · have hrange : c.val ≥ 'A'.val ∧ c.val ≤ 'Z'.val := of_decide_eq_true hupper
      exact Nat.lt_of_le_of_lt (show c.toNat ≤ 90 from hrange.2) (by decide)
    · exact Nat.lt_of_le_of_lt (hbound 97 122 hlower) (by decide)
  · exact Nat.lt_of_le_of_lt (hbound 48 57 hdigit) (by decide)

/-! ### ASCII forms -/

namespace Punycode

theorem isAlphanum_digit {n : Nat} (h : n < base) : (digit n).isAlphanum = true := by
  have hall : ∀ n < 36, (digit n).isAlphanum = true := by decide
  exact hall n h

theorem isAlphanum_encodeDelta (q k bias : Nat) :
    ∀ c ∈ encodeDelta q k bias, c.isAlphanum = true := by
  induction q, k using encodeDelta.induct bias with
  | case1 q k t hlast =>
    have hsmall : q < base := by
      have hlow := threshold_le k bias
      unfold base
      omega
    rw [encodeDelta, dif_pos hlast]
    intro c hc
    rw [List.mem_singleton.mp hc]
    exact isAlphanum_digit hsmall
  | case2 q k t hmore ih =>
    have hsmall : t + (q - t) % (base - t) < base := by
      have hlow : t ≤ 26 := threshold_le k bias
      have hmod : (q - t) % (base - t) < base - t := Nat.mod_lt _ (by unfold base; omega)
      omega
    rw [encodeDelta, dif_neg hmore]
    intro c hc
    rcases List.mem_cons.mp hc with rfl | hc
    · exact isAlphanum_digit hsmall
    · exact ih c hc

/-- The digits that have been written are letters and digits. -/
def Encoder.Plain (e : Encoder) : Prop := ∀ c ∈ e.out, c.isAlphanum = true

theorem Encoder.Plain.withDelta {e : Encoder} (h : e.Plain) (delta : Nat) :
    ({ e with delta := delta } : Encoder).Plain := h

theorem Encoder.Plain.encodeChar {e : Encoder} (h : e.Plain) (code : Nat) (c : Char) :
    (encodeChar code e c).Plain := by
  unfold Punycode.encodeChar
  split
  · exact h
  · split
    · intro d hd
      rcases List.mem_append.mp hd with hd | hd
      · exact isAlphanum_encodeDelta _ _ _ d (List.mem_reverse.mp hd)
      · exact h d hd
    · exact h

theorem Encoder.Plain.foldl {e : Encoder} (h : e.Plain) (code : Nat) (label : List Char) :
    (label.foldl (Punycode.encodeChar code) e).Plain := by
  induction label generalizing e with
  | nil => exact h
  | cons c label ih => exact ih (h.encodeChar code c)

theorem Encoder.Plain.encodeCodes {e : Encoder} (h : e.Plain) (label : List Char) (code : Nat)
    (rest : List Nat) : (encodeCodes label code e rest).Plain := by
  induction rest generalizing code e with
  | nil => exact h
  | cons next rest ih =>
    rw [Punycode.encodeCodes]
    exact ih (((h.withDelta _).foldl next label).withDelta _) _

/-- A label in Punycode is ASCII. -/
theorem isAscii_encode (label : List Char) : ∀ c ∈ encode label, c.toNat < 0x80 := by
  have hnone :
      Encoder.Plain ⟨0, firstBias, (label.filter (·.toNat < firstCode)).length, true, []⟩ :=
    nofun
  have hplain := hnone.encodeCodes label firstCode (codes label)
  intro c hc
  unfold encode at hc
  rcases List.mem_append.mp hc with hc | hc
  · rcases List.mem_append.mp hc with hc | hc
    · have hkept := (List.mem_filter.mp hc).2
      exact of_decide_eq_true hkept
    · split at hc
      · cases hc
      · rw [List.mem_singleton.mp hc]
        decide
  · exact Text.toNat_lt_of_isAlphanum (hplain c (List.mem_reverse.mp hc))

end Punycode

namespace Domain

theorem toNat_toLower_lt {c : Char} (h : c.toNat < 0x80) : c.toLower.toNat < 0x80 := by
  refine Text.of_ascii (P := fun c => c.toLower.toNat < 0x80) ?_ h
  decide

theorem isAscii_writeLabel? {label ascii : List Char} (h : writeLabel? label = some ascii) :
    ∀ c ∈ ascii, c.toNat < 0x80 := by
  unfold writeLabel? at h
  split at h
  · rename_i hascii
    cases h
    simpa [isAscii] using hascii
  · split at h
    · cases h
    · cases h
      intro c hc
      rcases List.mem_append.mp hc with hc | hc
      · have hmark : ∀ c ∈ codedMark, c.toNat < 0x80 := by simp [codedMark]
        exact hmark c hc
      · exact Punycode.isAscii_encode label c hc

theorem isAscii_toAsciiMapped? {name ascii : List Char} (h : toAsciiMapped? name = some ascii) :
    ∀ c ∈ ascii, c.toNat < 0x80 := by
  unfold toAsciiMapped? at h
  split at h
  · cases h
  · split at h
    · cases h
    · split at h
      · cases h
      · obtain ⟨labels, hlabels, rfl⟩ := Option.map_eq_some_iff.mp h
        intro c hc
        rcases Text.mem_intercalate hc with rfl | ⟨label, hlabel, hc⟩
        · decide
        · obtain ⟨plain, -, hwrite⟩ := Text.exists_of_mem_mapM hlabels hlabel
          exact isAscii_writeLabel? hwrite c hc

/-- The ASCII form of a name is ASCII. -/
theorem toAscii?_isAscii {name ascii : List Char} (h : toAscii? name = some ascii) :
    ∀ c ∈ ascii, c.toNat < 0x80 := by
  unfold toAscii? at h
  dsimp only at h
  split at h
  · rename_i found hfound
    split at h
    · cases h
    · cases h
      split at hfound
      · rename_i hplain
        cases hfound
        have hascii : ∀ c ∈ name, c.toNat < 0x80 := by
          simpa [isAscii] using (Bool.and_eq_true_iff.mp hplain).1
        intro c hc
        obtain ⟨d, hd, rfl⟩ := List.mem_map.mp hc
        exact toNat_toLower_lt (hascii d hd)
      · exact isAscii_toAsciiMapped? hfound
  · cases h

end Domain

namespace Host

/-! ### Characters that stay -/

/-- ASCII characters that a host without a special scheme may hold, and that are not encoded in
it. -/
def stays (c : Char) : Bool :=
  decide (c.toNat < 0x80) && !Percent.controls c && !ends c

theorem stays_iff {c : Char} :
    stays c = true ↔ c.toNat < 0x80 ∧ Percent.controls c = false ∧ ends c = false := by
  simp [stays, and_assoc]

theorem stays_of_isAlphanum {c : Char} (h : c.isAlphanum = true) : stays c = true := by
  refine Text.of_ascii (P := fun c => c.isAlphanum = true → stays c = true) ?_
    (Text.toNat_lt_of_isAlphanum h) h
  decide

/-- What a domain name may hold stays. -/
theorem stays_of_allowed {c : Char} (hascii : c.toNat < 0x80) (h : Domain.forbidden c = false) :
    stays c = true := by
  refine Text.of_ascii (P := fun c => Domain.forbidden c = false → stays c = true) ?_ hascii h
  decide

/-- What is encoded is not encoded again. -/
theorem stays_of_mem_encode {s : List Char} (hs : ∀ c ∈ s, ends c = false) {c : Char}
    (h : c ∈ Percent.encode Percent.controls s) : stays c = true := by
  rcases Percent.mem_encode h with ⟨hmem, hcontrols, hascii⟩ | rfl | halphanum
  · exact stays_iff.mpr ⟨hascii, hcontrols, hs c hmem⟩
  · decide
  · exact stays_of_isAlphanum halphanum

/-! ### Hosts as they are written -/

/-- It is visible, and ends neither an authority nor the credentials in it. -/
theorem visible_of_stays {c : Char} (h : stays c = true) :
    0x20 < c.toNat ∧ c.toNat < 0x7F ∧ Url.divides c = false := by
  refine Text.of_ascii (P := fun c => stays c = true →
    0x20 < c.toNat ∧ c.toNat < 0x7F ∧ Url.divides c = false) ?_ (stays_iff.mp h).1 h
  decide

/-- `Settled text`: a host is written so that it is read as it stands. -/
inductive Settled : String → Prop where
  /-- A name of characters that stay. -/
  | plain {text : String} (stay : ∀ c ∈ text.toList, stays c = true) : Settled text
  /-- An address in brackets. -/
  | bracketed {address : Ipv6} (fits : address.Fits) : Settled ("[" ++ address.shown ++ "]")

theorem toList_bracketed (address : Ipv6) :
    ("[" ++ address.shown ++ "]").toList = '[' :: (address.shown.toList ++ [']']) := by
  have hopen : "[".toList = ['['] := rfl
  have hclose : "]".toList = [']'] := rfl
  rw [String.toList_append, String.toList_append, hopen, hclose]
  rfl

theorem fits_of_parseOpaque {s : List Char} {address : Ipv6}
    (h : parseOpaque s = .ok (.ipv6 address)) : address.Fits := by
  unfold parseOpaque at h
  split at h
  · obtain ⟨found, hfound, hfits⟩ := parseBracketed_eq_ok h
    cases hfound
    exact hfits
  · split at h <;> cases h

/-- The host of a URL is written so that it is read as it stands. -/
theorem settled_shown {kind : SchemeKind} {s : List Char} {h : Host}
    (hread : Url.hostOf kind s = .ok h) : Settled h.shown := by
  unfold Url.hostOf at hread
  cases h with
  | ipv4 address =>
    refine .plain fun c hc => ?_
    change c ∈ address.shown.toList at hc
    rw [address.toList_shown] at hc
    rcases Text.mem_numerals (by decide) (by decide) hc with rfl | halphanum
    · decide
    · exact stays_of_isAlphanum halphanum
  | ipv6 address =>
    refine .bracketed ?_
    split at hread
    · exact fits_of_parse hread
    · exact fits_of_parseOpaque hread
  | domain name =>
    refine .plain fun c hc => ?_
    change c ∈ name.toList at hc
    split at hread
    · obtain ⟨-, decoded, hascii⟩ := parse_domain_toAscii? hread
      exact stays_of_allowed (Domain.toAscii?_isAscii hascii c hc)
        (Domain.toAscii?_allowed hascii c hc)
    · obtain ⟨rfl, hends⟩ := Url.parseOpaque_domain hread
      rw [String.toList_ofList] at hc
      exact stays_of_mem_encode hends hc

namespace Settled

variable {text : String}

/-- It is read as it stands. -/
theorem parseOpaque (h : Settled text) :
    ∃ host, Host.parseOpaque text.toList = .ok host ∧ host.shown = text := by
  cases h with
  | @bracketed address fits =>
    refine ⟨.ipv6 address, ?_, rfl⟩
    rw [toList_bracketed]
    show parseBracketed (address.shown.toList ++ [']']) = _
    unfold parseBracketed
    rw [if_pos List.getLast?_concat, List.dropLast_concat, Ipv6.parse?_shown fits]
  | plain stay =>
    refine ⟨.domain text, ?_, rfl⟩
    have hends : text.toList.any ends = false := by
      rw [List.any_eq_false]
      intro c hc
      simp [(stays_iff.mp (stay c hc)).2.2]
    have hencode : Percent.encode Percent.controls text.toList = text.toList :=
      Percent.encode_of_forall fun c hc =>
        have ⟨hascii, hcontrols, _⟩ := stays_iff.mp (stay c hc)
        ⟨hascii, hcontrols⟩
    unfold Host.parseOpaque
    split
    · rename_i rest hbracket
      have hopen := stay '[' (by rw [hbracket]; exact List.mem_cons_self)
      exact absurd hopen (by decide)
    · rw [hends, if_neg Bool.false_ne_true, hencode, String.ofList_toList]

/-- Its characters are visible, and none of them ends an authority. -/
theorem visible (h : Settled text) :
    ∀ c ∈ text.toList, 0x20 < c.toNat ∧ c.toNat < 0x7F ∧ Url.divides c = false := by
  cases h with
  | plain stay => exact fun c hc => visible_of_stays (stay c hc)
  | @bracketed address _ =>
    intro c hc
    rw [toList_bracketed, List.mem_cons, List.mem_append, List.mem_singleton] at hc
    rcases hc with rfl | hc | rfl
    · decide
    · rcases inAddress_cases (address.inAddress_shown c hc) with halphanum | rfl | rfl
      · exact visible_of_stays (stays_of_isAlphanum halphanum)
      · decide
      · decide
    · decide

/-- It ends where a port begins. -/
theorem cutHost (h : Settled text) (rest : List Char) :
    Url.cutHost .other false (text.toList ++ ':' :: rest) = (text.toList, ':' :: rest) := by
  have hends : ∀ c ∈ text.toList, Url.endsAuthority .other c = false := fun c hc =>
    Url.endsAuthority_other (h.visible c hc).2.2
  cases h with
  | plain stay =>
    refine Url.cutHost_colon (fun c hc => ⟨?_, ?_, hends c hc⟩) rest
    · rintro rfl
      exact absurd (stay _ hc) (by decide)
    · rintro rfl
      exact absurd (stay _ hc) (by decide)
  | @bracketed address _ =>
    have hmem {c : Char} (hc : c ∈ address.shown.toList) :
        c ∈ ("[" ++ address.shown ++ "]").toList := by
      rw [toList_bracketed]
      exact List.mem_cons_of_mem _ (List.mem_append_left _ hc)
    have hwhole : ("[" ++ address.shown ++ "]").toList ++ ':' :: rest
        = '[' :: (address.shown.toList ++ ']' :: ':' :: rest) := by
      rw [toList_bracketed]
      simp
    rw [hwhole, toList_bracketed]
    exact Url.cutHost_bracketed
      (fun c hc => ⟨isBracket_eq_false (address.inAddress_shown c hc), hends c (hmem hc)⟩) rest

end Settled

end Host

end Carrier
