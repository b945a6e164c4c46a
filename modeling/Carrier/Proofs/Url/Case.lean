import Carrier.Proofs.Text.Utf8
import Carrier.Proofs.Url.Settled

/-!
# Hosts in letters of either case

With a special scheme, a host is the same host in letters of either case: digits of an address and
of an encoded octet have no case, and the letters of a name lose theirs before anything is asked of
them. That goes for every step from the octets of a host to its ASCII form.

- `Text.toLower_eq_iff`: what is no letter stays what it is.
- `Utf8.State.Beyond`: states in the middle of a character outside ASCII.
- `Percent.decode_lower`, `Utf8.decode?_lower`, `Domain.toAscii?_lower`: each step for names.
- `Ipv6.parse?_lower`: addresses in brackets.
- `Host.parse_lower`: the host in lower case is the same host.
-/

namespace Carrier

/-! ### Characters -/

namespace Text

theorem toLower_of_beyond {c : Char} (h : 0x80 ≤ c.toNat) : c.toLower = c := by
  refine dif_neg fun hupper => ?_
  have hsmall : c.toNat ≤ 90 := hupper.2
  omega

/-- What is no letter stays what it is, and no letter becomes it. -/
theorem toLower_eq_iff {c d : Char} (h : d.isAlpha = false) : c.toLower = d ↔ c = d := by
  by_cases hascii : c.toNat < 0x80
  · constructor
    · rintro rfl
      refine of_ascii (P := fun c => c.toLower.isAlpha = false → c = c.toLower) ?_ hascii h
      decide
    · rintro rfl
      refine of_ascii (P := fun c => c.isAlpha = false → c.toLower = c) ?_ hascii h
      decide
  · rw [toLower_of_beyond (Nat.le_of_not_lt hascii)]

theorem toLower_toLower (c : Char) : c.toLower.toLower = c.toLower := by
  by_cases hascii : c.toNat < 0x80
  · refine of_ascii (P := fun c => c.toLower.toLower = c.toLower) ?_ hascii
    decide
  · rw [toLower_of_beyond (Nat.le_of_not_lt hascii), toLower_of_beyond (Nat.le_of_not_lt hascii)]

theorem toLower_lt_iff {c : Char} : c.toLower.toNat < 0x80 ↔ c.toNat < 0x80 := by
  by_cases hascii : c.toNat < 0x80
  · exact iff_of_true (Domain.toNat_toLower_lt hascii) hascii
  · rw [toLower_of_beyond (Nat.le_of_not_lt hascii)]

theorem hexValue?_toLower (c : Char) : hexValue? c.toLower = hexValue? c := by
  by_cases hascii : c.toNat < 0x80
  · refine of_ascii (P := fun c => hexValue? c.toLower = hexValue? c) ?_ hascii
    decide
  · rw [toLower_of_beyond (Nat.le_of_not_lt hascii)]

theorem readDigits?_lower (base acc : Nat) (s : List Char) :
    readDigits? base acc (s.map Char.toLower) = readDigits? base acc s := by
  induction s generalizing acc with
  | nil => rfl
  | cons c s ih =>
    rw [List.map_cons, readDigits?, readDigits?, hexValue?_toLower]
    simp only [ih]

theorem readNat?_lower (s : List Char) : readNat? (s.map Char.toLower) = readNat? s := by
  unfold readNat?
  rw [readDigits?_lower, List.isEmpty_map]

theorem fields_lower {sep : Char} (h : sep.isAlpha = false) (s : List Char) :
    fields sep (s.map Char.toLower) = (fields sep s).map (List.map Char.toLower) := by
  induction s with
  | nil => rfl
  | cons c s ih =>
    rw [List.map_cons, fields, fields, ih]
    by_cases hsep : c = sep
    · rw [if_pos ((toLower_eq_iff h).mpr hsep), if_pos hsep]
      rfl
    · rw [if_neg fun hlower => hsep ((toLower_eq_iff h).mp hlower), if_neg hsep]
      cases fields sep s <;> rfl

theorem contains_lower {d : Char} (h : d.isAlpha = false) (s : List Char) :
    (s.map Char.toLower).contains d = s.contains d := by
  rw [Bool.eq_iff_iff, List.contains_iff_mem, List.contains_iff_mem, List.mem_map]
  constructor
  · rintro ⟨c, hc, hlower⟩
    exact (toLower_eq_iff h).mp hlower ▸ hc
  · intro hd
    exact ⟨d, hd, (toLower_eq_iff h).mpr rfl⟩

theorem isPrefixOf_lower {pattern : List Char} (h : ∀ d ∈ pattern, d.isAlpha = false)
    (s : List Char) : pattern.isPrefixOf (s.map Char.toLower) = pattern.isPrefixOf s := by
  induction pattern generalizing s with
  | nil => simp
  | cons d pattern ih =>
    cases s with
    | nil => rfl
    | cons c s =>
      have hd := toLower_eq_iff (c := c) (h d List.mem_cons_self)
      have hsame : (d == c.toLower) = (d == c) := by
        rw [Bool.eq_iff_iff, beq_iff_eq, beq_iff_eq, eq_comm, hd, eq_comm]
      rw [List.map_cons, List.isPrefixOf, List.isPrefixOf, hsame,
        ih fun e he => h e (List.mem_cons_of_mem d he)]

theorem cut?_lower {pattern : List Char} (h : ∀ d ∈ pattern, d.isAlpha = false) (s : List Char) :
    cut? pattern (s.map Char.toLower) =
      (cut? pattern s).map fun (before, after) =>
        (before.map Char.toLower, after.map Char.toLower) := by
  induction s with
  | nil =>
    rw [List.map_nil, cut?]
    split <;> rfl
  | cons c s ih =>
    have hprefix := isPrefixOf_lower h (c :: s)
    rw [List.map_cons] at hprefix ⊢
    rw [cut?, cut?, hprefix, ih]
    split
    · rw [← List.map_cons, ← List.map_drop]
      rfl
    · cases cut? pattern s <;> rfl

end Text

/-! ### Addresses in brackets -/

namespace Ipv6

theorem readGroup?_lower (s : List Char) : readGroup? (s.map Char.toLower) = readGroup? s := by
  unfold readGroup?
  rw [List.isEmpty_map, List.length_map, Text.readDigits?_lower]

/-- An octet is a number, unless a needless zero stands in front of it. -/
theorem readOctet?_eq {s : List Char} (h : ∀ c t, s ≠ '0' :: c :: t) :
    readOctet? s = (Text.readNat? s).bind fun n => if n < 256 then some n else none := by
  unfold readOctet?
  split
  · exact absurd rfl (h _ _)
  · cases Text.readNat? s <;> rfl

theorem readOctet?_lower (s : List Char) : readOctet? (s.map Char.toLower) = readOctet? s := by
  have hzero {c : Char} : c.toLower = '0' ↔ c = '0' := Text.toLower_eq_iff (by decide)
  by_cases hpadded : ∃ c t, s = '0' :: c :: t
  · obtain ⟨c, t, rfl⟩ := hpadded
    rw [List.map_cons, List.map_cons, hzero.mpr rfl]
    rfl
  · have hplain : ∀ c t, s ≠ '0' :: c :: t := fun c t h => hpadded ⟨c, t, h⟩
    have hlower : ∀ c t, s.map Char.toLower ≠ '0' :: c :: t := by
      intro c t h
      obtain ⟨d, u, rfl, hd, hu⟩ := List.map_eq_cons_iff.mp h
      obtain ⟨e, v, rfl, -, -⟩ := List.map_eq_cons_iff.mp hu
      exact hplain e v (by rw [hzero.mp hd])
    rw [readOctet?_eq hplain, readOctet?_eq hlower, Text.readNat?_lower]

theorem readQuad?_lower (s : List Char) : readQuad? (s.map Char.toLower) = readQuad? s := by
  have hoctets : readOctet? ∘ List.map Char.toLower = readOctet? := funext readOctet?_lower
  unfold readQuad?
  rw [Text.fields_lower (by decide), List.mapM_map, hoctets]

theorem readGroups?_cons (s t : List Char) (rest : List (List Char)) :
    readGroups? (s :: t :: rest) =
      (readGroup? s).bind fun n => (readGroups? (t :: rest)).map (n :: ·) := by
  rw [readGroups?]
  · cases readGroup? s <;> cases readGroups? (t :: rest) <;> rfl
  · simp

theorem readGroups?_lower (parts : List (List Char)) :
    readGroups? (parts.map (List.map Char.toLower)) = readGroups? parts := by
  induction parts with
  | nil => rfl
  | cons part parts ih =>
    cases parts with
    | nil =>
      simp only [List.map_cons, List.map_nil, readGroups?]
      rw [Text.contains_lower (by decide), readQuad?_lower, readGroup?_lower]
    | cons next parts =>
      rw [List.map_cons] at ih
      rw [List.map_cons, List.map_cons, readGroups?_cons, readGroups?_cons, readGroup?_lower, ih]

theorem readPart?_lower (s : List Char) : readPart? (s.map Char.toLower) = readPart? s := by
  unfold readPart?
  rw [List.isEmpty_map, Text.fields_lower (by decide), readGroups?_lower]

theorem parse?_lower (s : List Char) : parse? (s.map Char.toLower) = parse? s := by
  unfold parse?
  rw [Text.cut?_lower (by simp)]
  cases Text.cut? "::".toList s with
  | none =>
    simp only [Option.map_none]
    rw [readPart?_lower]
  | some halves =>
    obtain ⟨front, back⟩ := halves
    simp only [Option.map_some]
    rw [Text.contains_lower (by decide), readPart?_lower, readPart?_lower]

end Ipv6

/-! ### Octets -/

/-- An octet, in lower case if it is a letter. -/
def Utf8.lowerOctet (b : UInt8) : UInt8 :=
  if 0x41 ≤ b.toNat ∧ b.toNat ≤ 0x5A then UInt8.ofNat (b.toNat + 0x20) else b

namespace Utf8

theorem lowerOctet_of_beyond {b : UInt8} (h : 0x80 ≤ b.toNat) : lowerOctet b = b :=
  if_neg (by omega)

/-- In the middle of a character, what is read is no ASCII character: its octets are not, and
neither is the least character that they can end up in. -/
inductive State.Beyond : State → Prop where
  | boundary : Beyond .boundary
  | inside {left lo hi value : Nat} (low : 0x80 ≤ lo) (high : hi ≤ 0xBF)
    (least : 0x80 ≤ (value * 64 + lo % 64) * 64 ^ left) : Beyond (.inside left lo hi value)

theorem step_inside {left lo hi value : Nat} {b : UInt8} (h : lo ≤ b.toNat ∧ b.toNat ≤ hi) :
    step (.inside left lo hi value) b =
      match left with
      | 0 => some (.boundary, some (Char.ofNat (value * 64 + b.toNat % 64)))
      | left + 1 => some (.inside left 0x80 0xBF (value * 64 + b.toNat % 64), none) := by
  unfold step
  refine (if_neg (by omega)).trans ?_
  cases left <;> rfl

theorem step_outside {left lo hi value : Nat} {b : UInt8} (h : b.toNat < lo ∨ hi < b.toNat) :
    step (.inside left lo hi value) b = none :=
  if_pos h

theorem step_ascii {b : UInt8} (h : b.toNat < 0x80) :
    step .boundary b = some (.boundary, some (Char.ofNat b.toNat)) :=
  if_pos h

theorem State.Beyond.step {s s' : State} {b : UInt8} {c : Option Char} (h : s.Beyond)
    (hstep : Utf8.step s b = some (s', c)) : s'.Beyond := by
  cases h with
  | boundary =>
    unfold Utf8.step at hstep
    dsimp only at hstep
    split_ifs at hstep <;> cases hstep
    · exact .boundary
    all_goals exact .inside (by decide) (by decide) (by omega)
  | @inside left lo hi value low high least =>
    by_cases hrange : lo ≤ b.toNat ∧ b.toNat ≤ hi
    · rw [step_inside hrange] at hstep
      cases left with
      | zero =>
        cases hstep
        exact .boundary
      | succ left =>
        cases hstep
        have hgrown : (value * 64 + lo % 64) * 64 ^ (left + 1)
            ≤ ((value * 64 + b.toNat % 64) * 64 + 0x80 % 64) * 64 ^ left := by
          rw [Nat.pow_succ', ← Nat.mul_assoc]
          refine Nat.mul_le_mul_right _ ?_
          omega
        exact .inside (by decide) (by decide) (Nat.le_trans least hgrown)
    · rw [step_outside (by omega)] at hstep
      cases hstep

theorem toLower_ofNat {n : Nat} (h : 0x80 ≤ n) : (Char.ofNat n).toLower = Char.ofNat n := by
  by_cases hvalid : n.isValidChar
  · refine Text.toLower_of_beyond ?_
    show 0x80 ≤ (Char.ofNat n).val.toNat
    rwa [val_ofNat hvalid]
  · rw [Char.ofNat, dif_neg hvalid]
    rfl

/-- An octet in lower case ends the same character in lower case. -/
theorem step_lower {s : State} (h : s.Beyond) (b : UInt8) :
    step s (lowerOctet b) = (step s b).map fun (s', c) => (s', c.map Char.toLower) := by
  by_cases hascii : b.toNat < 0x80
  · have hall : ∀ n < 0x80, (lowerOctet (UInt8.ofNat n)).toNat < 0x80 ∧
        Char.ofNat (lowerOctet (UInt8.ofNat n)).toNat = (Char.ofNat n).toLower := by decide
    obtain ⟨hsmall, hchar⟩ := UInt8.ofNat_toNat (x := b) ▸ hall b.toNat hascii
    cases h with
    | boundary =>
      rw [step_ascii hascii, step_ascii hsmall, hchar]
      rfl
    | inside low =>
      rw [step_outside (.inl (Nat.lt_of_lt_of_le hascii low)),
        step_outside (.inl (Nat.lt_of_lt_of_le hsmall low))]
      rfl
  · rw [lowerOctet_of_beyond (Nat.le_of_not_lt hascii)]
    cases h with
    | boundary =>
      unfold step
      dsimp only
      rw [if_neg hascii]
      split_ifs <;> rfl
    | @inside left lo hi value low high least =>
      by_cases hrange : lo ≤ b.toNat ∧ b.toNat ≤ hi
      · rw [step_inside hrange]
        cases left with
        | succ left => rfl
        | zero =>
          have hlast : 0x80 ≤ value * 64 + b.toNat % 64 := by omega
          show some _ = some (State.boundary, some (Char.ofNat _).toLower)
          rw [toLower_ofNat hlast]
      · rw [step_outside (by omega)]
        rfl

theorem feed_lower {s : State} (h : s.Beyond) (acc : List Char) (bytes : List UInt8) :
    feed (acc.map Char.toLower) s (bytes.map lowerOctet) =
      (feed acc s bytes).map fun (s', text) => (s', text.map Char.toLower) := by
  induction bytes generalizing acc s with
  | nil =>
    show some (s, _) = some (s, acc.reverse.map Char.toLower)
    rw [List.map_reverse]
  | cons b bytes ih =>
    rw [List.map_cons, feed, feed, step_lower h]
    cases hstep : step s b with
    | none => rfl
    | some found =>
      obtain ⟨s', c⟩ := found
      have hbeyond := h.step hstep
      cases c with
      | none => exact ih hbeyond acc
      | some c => exact ih hbeyond (c :: acc)

/-- Octets in lower case are a text in lower case. -/
theorem decode?_lower (bytes : List UInt8) :
    decode? (bytes.map lowerOctet) = (decode? bytes).map (List.map Char.toLower) := by
  unfold decode?
  have hfeed := feed_lower .boundary [] bytes
  rw [List.map_nil] at hfeed
  rw [hfeed]
  cases feed [] .boundary bytes with
  | none => rfl
  | some found =>
    obtain ⟨s, text⟩ := found
    cases s <;> rfl

end Utf8

namespace Percent

open Utf8

theorem encodeChar_lower (c : Char) :
    (String.utf8EncodeChar c.toLower).map lowerOctet
      = (String.utf8EncodeChar c).map lowerOctet := by
  by_cases hascii : c.toNat < 0x80
  · refine Text.of_ascii (P := fun c => (String.utf8EncodeChar c.toLower).map lowerOctet
      = (String.utf8EncodeChar c).map lowerOctet) ?_ hascii
    decide
  · rw [Text.toLower_of_beyond (Nat.le_of_not_lt hascii)]

/-- A percent sign with two characters behind it. -/
def Escaped (s : List Char) : Prop := ∃ h l t, s = '%' :: h :: l :: t

theorem decode_cons {c : Char} {s : List Char} (h : ¬ Escaped (c :: s)) :
    decode (c :: s) = String.utf8EncodeChar c ++ decode s := by
  rw [decode]
  rintro h' l t rfl rfl
  exact h ⟨h', l, t, rfl⟩

theorem escaped_lower {s : List Char} (h : Escaped (s.map Char.toLower)) : Escaped s := by
  have hsign {c : Char} : c.toLower = '%' ↔ c = '%' := Text.toLower_eq_iff (by decide)
  obtain ⟨h, l, t, heq⟩ := h
  obtain ⟨c, s, rfl, hc, hs⟩ := List.map_eq_cons_iff.mp heq
  obtain ⟨d, s, rfl, -, hs⟩ := List.map_eq_cons_iff.mp hs
  obtain ⟨e, s, rfl, -, -⟩ := List.map_eq_cons_iff.mp hs
  exact ⟨d, e, s, by rw [hsign.mp hc]⟩

/-- Whether octets are encoded or not, they are the same but for the case of letters. -/
theorem decode_lower (s : List Char) :
    (decode (s.map Char.toLower)).map lowerOctet = (decode s).map lowerOctet := by
  have hsign : '%'.toLower = '%' := rfl
  induction s using decode.induct with
  | case1 => rfl
  | case2 h l s a b ha hb ih =>
    have hlower (c : Char) := Text.hexValue?_toLower c
    simp only [List.map_cons, hsign, decode, hlower, ha, hb, ih]
  | case3 h l s hnone ih =>
    have hplain (h l : Char) (s : List Char)
        (hnone : ∀ a b, Text.hexValue? h = some a → Text.hexValue? l = some b → False) :
        decode ('%' :: h :: l :: s) = 37 :: decode (h :: l :: s) := by
      rw [decode]
      split
      · rename_i ha hb
        exact (hnone _ _ ha hb).elim
      · rfl
    rw [List.map_cons, List.map_cons, List.map_cons, hsign, hplain h l s hnone, hplain,
      List.map_cons, List.map_cons]
    · exact congrArg _ ih
    · intro a b ha hb
      rw [Text.hexValue?_toLower] at ha hb
      exact hnone a b ha hb
  | case4 c s hplain ih =>
    have hnone : ¬ Escaped (c :: s) := by
      rintro ⟨h, l, t, heq⟩
      cases heq
      exact hplain h l t rfl rfl
    have hlower : ¬ Escaped (c.toLower :: s.map Char.toLower) := fun h => hnone (escaped_lower h)
    rw [List.map_cons, decode_cons hnone, decode_cons hlower, List.map_append, List.map_append,
      encodeChar_lower, ih]

end Percent

/-! ### Names -/

namespace Domain

theorem isAscii_lower (s : List Char) : isAscii (s.map Char.toLower) = isAscii s := by
  unfold isAscii
  rw [List.all_map]
  refine congrArg (List.all s) (funext fun c => ?_)
  exact decide_eq_decide.mpr Text.toLower_lt_iff

theorem mapping_toLower (c : Char) : Text.Mapping.of c.toLower = Text.Mapping.of c := by
  by_cases hascii : c.toNat < 0x80
  · unfold Text.Mapping.of
    dsimp only
    rw [if_pos hascii, if_pos (toNat_toLower_lt hascii), Text.toLower_toLower]
  · rw [Text.toLower_of_beyond (Nat.le_of_not_lt hascii)]

theorem mapped?_lower (s : List Char) : mapped? (s.map Char.toLower) = mapped? s := by
  have hmapping : Text.Mapping.of ∘ Char.toLower = Text.Mapping.of := funext mapping_toLower
  unfold mapped?
  rw [List.mapM_map, hmapping]

/-- A name has the same ASCII form in lower case. -/
theorem toAscii?_lower (name : List Char) : toAscii? (name.map Char.toLower) = toAscii? name := by
  have htwice : Char.toLower ∘ Char.toLower = Char.toLower := funext Text.toLower_toLower
  unfold toAscii? toAsciiMapped?
  dsimp only
  rw [isAscii_lower, mapped?_lower, List.map_map, htwice]

end Domain

/-! ### Hosts -/

namespace Host

/-- What does not begin with a bracket is a name, or an address in decimal. -/
theorem parse_of_ne {s : List Char} (h : ∀ t, s ≠ '[' :: t) :
    parse s =
      match (Utf8.decode? (Percent.decode s)).bind Domain.toAscii? with
      | none => .error .invalidDomain
      | some [] => .error .emptyHost
      | some name =>
        if Ipv4.looksNumeric name then
          match Ipv4.parse? name with
          | some a => .ok (.ipv4 a)
          | none => .error .invalidIpv4
        else .ok (.domain (String.ofList name)) := by
  unfold parse
  split
  · exact absurd rfl (h _)
  · rfl

theorem parseBracketed_lower (s : List Char) :
    parseBracketed (s.map Char.toLower) = parseBracketed s := by
  have hclose : (s.map Char.toLower).getLast? = some ']' ↔ s.getLast? = some ']' := by
    rw [List.getLast?_map, Option.map_eq_some_iff]
    have hsame {c : Char} : c.toLower = ']' ↔ c = ']' := Text.toLower_eq_iff (by decide)
    simp [hsame]
  unfold parseBracketed
  rw [← List.map_dropLast, Ipv6.parse?_lower]
  simp only [hclose]

/-- The host of a special scheme is the same host in lower case. -/
theorem parse_lower (s : List Char) : parse (s.map Char.toLower) = parse s := by
  have hopen {c : Char} : c.toLower = '[' ↔ c = '[' := Text.toLower_eq_iff (by decide)
  by_cases hbracket : ∃ t, s = '[' :: t
  · obtain ⟨t, rfl⟩ := hbracket
    rw [List.map_cons, hopen.mpr rfl]
    exact parseBracketed_lower t
  · have hplain : ∀ t, s ≠ '[' :: t := fun t h => hbracket ⟨t, h⟩
    have hlower : ∀ t, s.map Char.toLower ≠ '[' :: t := by
      intro t h
      obtain ⟨c, u, rfl, hc, -⟩ := List.map_eq_cons_iff.mp h
      exact hplain u (by rw [hopen.mp hc])
    -- the name that is asked for its ASCII form is the same but for the case of its letters
    have hname : (Utf8.decode? (Percent.decode (s.map Char.toLower))).bind Domain.toAscii?
        = (Utf8.decode? (Percent.decode s)).bind Domain.toAscii? := by
      have hascii (octets : List UInt8) : (Utf8.decode? octets).bind Domain.toAscii?
          = (Utf8.decode? (octets.map Utf8.lowerOctet)).bind Domain.toAscii? := by
        rw [Utf8.decode?_lower]
        cases Utf8.decode? octets with
        | none => rfl
        | some name => exact (Domain.toAscii?_lower name).symm
      rw [hascii, Percent.decode_lower, ← hascii]
    rw [parse_of_ne hplain, parse_of_ne hlower, hname]

/-- Hosts that are the same in lower case are one host. -/
theorem parse_congr {s t : List Char} (h : s.map Char.toLower = t.map Char.toLower) :
    parse s = parse t := by
  rw [← parse_lower s, h, parse_lower]

/-- The encoded letter of a name has no case either. -/
example : parse "EX%41mple.COM".toList = .ok (.domain "example.com") := by decide +kernel

end Host

end Carrier
