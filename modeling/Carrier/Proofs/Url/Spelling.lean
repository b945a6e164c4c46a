import Carrier.Proofs.Url.HostPort
import Carrier.Proofs.Url.Parts
import Mathlib.Data.List.TakeWhile

/-!
# How host and port are spelled

In front of the path a URL may hold credentials, a host and a port. The last sign of the authority
ends the credentials, a colon outside of brackets ends the host, and the port is made of digits. A
text is spelled so in one way, and what is read of it is the host and the port of that spelling.

- `Url.Enclosed`: texts in which colons stand in brackets alone.
- `Url.PortText`: ports as they are written.
- `Url.Spelled`: credentials, host, port and the remainder, as they follow one another.
- `Url.Spelled.readAuthority`: host and port are read as they are spelled.
- `Url.exists_spelled`: whatever is read has been spelled so.
- `Url.Spelled.parse`, `Url.parse_spelled`: what that is for whole URLs.
-/

namespace Carrier

namespace Text

/-- The last separator is the one that has none behind it. -/
theorem cutLast?_eq_some_iff {sep : Char} {s before after : List Char} :
    cutLast? sep s = some (before, after) ↔ s = before ++ sep :: after ∧ sep ∉ after := by
  have hreverse : cutLast? sep s = some (before, after) ↔
      cutChar? sep s.reverse = some (after.reverse, before.reverse) := by
    rw [cutLast?, Option.map_eq_some_iff]
    constructor
    · rintro ⟨⟨_, _⟩, hcut, hhalves⟩
      cases hhalves
      rw [hcut, List.reverse_reverse, List.reverse_reverse]
    · intro hcut
      exact ⟨_, hcut, by simp⟩
  rw [hreverse, cutChar?_eq_some_iff, List.mem_reverse]
  refine and_congr_left' ?_
  rw [List.reverse_eq_iff]
  simp

theorem cutLast?_eq_none_iff {sep : Char} {s : List Char} : cutLast? sep s = none ↔ sep ∉ s := by
  refine ⟨fun hnone hmem => ?_, cutLast?_eq_none⟩
  obtain ⟨after, before, hsplit, hafter⟩ := List.eq_append_cons_of_mem (List.mem_reverse.mpr hmem)
  have hs : s = before.reverse ++ sep :: after.reverse := by
    rw [← List.reverse_reverse s, hsplit]
    simp
  cases hnone.symm.trans (cutLast?_eq_some_iff.mpr ⟨hs, by simpa using hafter⟩)

theorem isSome_digitValue? {c : Char} : (digitValue? c).isSome = c.isDigit := by
  unfold digitValue?
  rw [Bool.eq_iff_iff]
  simp [Char.isDigit, Char.le_def]

end Text

namespace Url

/-! ### Parts of an authority -/

/-- Whether a bracket is open behind a character. -/
def openBehind (inside : Bool) (c : Char) : Bool :=
  if c == '[' then true else if c == ']' then false else inside

/-- `Enclosed inside s behind`: the colons of a text stand in brackets. A bracket may be open in
front of the text and behind it. -/
inductive Enclosed : Bool → List Char → Bool → Prop where
  | nil {inside : Bool} : Enclosed inside [] inside
  | cons {inside behind : Bool} {c : Char} {s : List Char} (colon : c ≠ ':' ∨ inside = true)
    (rest : Enclosed (openBehind inside c) s behind) : Enclosed inside (c :: s) behind

/-- `PortText s port`: a port as it is written behind a host. -/
inductive PortText : List Char → Option Nat → Prop where
  /-- None is written. -/
  | none : PortText [] none
  /-- A colon and decimal digits; without digits it is none. -/
  | colon {digits : List Char} (decimal : ∀ c ∈ digits, c.isDigit = true) :
    PortText (':' :: digits) (Text.readNat? digits)

/-- What stands in front of the end of an authority. -/
def withinAuthority (kind : SchemeKind) (s : List Char) : List Char :=
  s.takeWhile fun c => !endsAuthority kind c

/-- `Remainder kind port rest`: what stands behind a port as it is written. -/
inductive Remainder (kind : SchemeKind) (port : List Char) : List Char → Prop where
  /-- Nothing. -/
  | nothing : Remainder kind port []
  /-- A path, a query or a fragment. -/
  | ended {c : Char} {s : List Char} (ends : endsAuthority kind c = true) :
    Remainder kind port (c :: s)
  /-- A port ends with a backslash whatever the scheme is, though the authority may not. -/
  | backslash {s : List Char} (written : port ≠ []) (last : '@' ∉ withinAuthority kind s) :
    Remainder kind port ('\\' :: s)

/-- `Spelled kind credentials host portText rest port`: these follow one another in a URL. -/
structure Spelled (kind : SchemeKind) (credentials host portText rest : List Char)
    (port : Option Nat) : Prop where
  /-- Credentials end with their sign. -/
  signed : credentials = [] ∨ ∃ front, credentials = front ++ ['@']
  /-- Neither they nor the host reach behind the authority. -/
  within : ∀ c ∈ credentials ++ host, endsAuthority kind c = false
  /-- There is a host. -/
  named : host ≠ []
  /-- It has no sign. -/
  unsigned : '@' ∉ host
  /-- Its colons stand in brackets, which are closed in front of a port. -/
  enclosed : ∃ behind, Enclosed false host behind ∧ (portText = [] ∨ behind = false)
  /-- The port is written behind it. -/
  port : PortText portText port
  /-- And nothing else in the authority. -/
  remainder : Remainder kind portText rest

variable {kind : SchemeKind}

theorem Enclosed.of_forall {s : List Char} (h : ∀ c ∈ s, c ≠ ':' ∧ c ≠ '[') :
    Enclosed false s false := by
  induction s with
  | nil => exact .nil
  | cons c s ih =>
    obtain ⟨hcolon, hbracket⟩ := h c List.mem_cons_self
    have hclosed : openBehind false c = false := by simp [openBehind, hbracket]
    refine .cons (.inl hcolon) ?_
    rw [hclosed]
    exact ih fun d hd => h d (List.mem_cons_of_mem c hd)

/-- A host without colons and brackets may stand in front of a port. -/
theorem Spelled.plain {credentials host portText rest : List Char} {port : Option Nat}
    (signed : credentials = [] ∨ ∃ front, credentials = front ++ ['@'])
    (within : ∀ c ∈ credentials ++ host, endsAuthority kind c = false) (named : host ≠ [])
    (own : ∀ c ∈ host, c ≠ '@' ∧ c ≠ ':' ∧ c ≠ '[') (written : PortText portText port)
    (remainder : Remainder kind portText rest) :
    Spelled kind credentials host portText rest port :=
  ⟨signed, within, named, fun h => (own _ h).1 rfl,
    ⟨false, .of_forall fun c hc => (own c hc).2, .inr rfl⟩, written, remainder⟩

/-! ### Credentials -/

theorem withinAuthority_append {s : List Char} (h : ∀ c ∈ s, endsAuthority kind c = false)
    (t : List Char) : withinAuthority kind (s ++ t) = s ++ withinAuthority kind t :=
  List.takeWhile_append_of_pos fun c hc => by simp [h c hc]

theorem withinAuthority_stays {c : Char} (h : endsAuthority kind c = false) (s : List Char) :
    withinAuthority kind (c :: s) = c :: withinAuthority kind s :=
  List.takeWhile_cons_of_pos (by simp [h])

theorem withinAuthority_ends {c : Char} (h : endsAuthority kind c = true) (s : List Char) :
    withinAuthority kind (c :: s) = [] :=
  List.takeWhile_cons_of_neg (by simp [h])

/-- Credentials stand in front of the last sign of an authority, and something behind it. -/
theorem cutCredentials_eq (kind : SchemeKind) (s : List Char) :
    cutCredentials kind s =
      match Text.cutLast? '@' (withinAuthority kind s) with
      | none => .ok ("", "", s)
      | some (front, _) =>
        if front.isEmpty && (s.drop 1).head?.any (endsAuthority kind) then .error .emptyHost
        else
          .ok ((readCredentials front).1, (readCredentials front).2,
            s.drop (front.length + 1)) := by
  unfold cutCredentials
  dsimp only
  rw [← withinAuthority]
  cases Text.cutLast? '@' (withinAuthority kind s) with
  | none => rfl
  | some halves =>
    obtain ⟨front, after⟩ := halves
    dsimp only
    cases front with
    | cons d front => rfl
    | nil =>
      have hnone : readCredentials [] = ("", "") := rfl
      rw [hnone]
      cases s.drop 1 <;> simp

theorem cutCredentials_unsigned {s : List Char} (h : '@' ∉ withinAuthority kind s) :
    cutCredentials kind s = .ok ("", "", s) := by
  rw [cutCredentials_eq, Text.cutLast?_eq_none h]

/-- Credentials end with the last sign, where a host follows it. -/
theorem cutCredentials_signed {front host : List Char} {c : Char}
    (hfront : ∀ d ∈ front, endsAuthority kind d = false) (hc : endsAuthority kind c = false)
    (hlast : '@' ∉ withinAuthority kind (c :: host)) :
    cutCredentials kind (front ++ '@' :: c :: host)
      = .ok ((readCredentials front).1, (readCredentials front).2, c :: host) := by
  have hsign : endsAuthority kind '@' = false := by cases kind <;> rfl
  have hwithin : withinAuthority kind (front ++ '@' :: c :: host)
      = front ++ '@' :: withinAuthority kind (c :: host) := by
    rw [withinAuthority_append hfront, withinAuthority_stays hsign]
  have hdrop : (front ++ '@' :: c :: host).drop (front.length + 1) = c :: host := by
    rw [← List.drop_drop, List.drop_left, List.drop_one, List.tail_cons]
  rw [cutCredentials_eq, Text.cutLast?_eq_some_iff.mpr ⟨hwithin, hlast⟩]
  dsimp only
  rw [hdrop, if_neg]
  cases front with
  | nil => simp [hc]
  | cons d front => simp

/-- What is cut from an authority as its credentials. -/
theorem cutCredentials_eq_ok {s t : List Char} {name password : String}
    (h : cutCredentials kind s = .ok (name, password, t)) :
    ∃ credentials, s = credentials ++ t ∧
      (credentials = [] ∨ ∃ front, credentials = front ++ ['@']) ∧
      (∀ c ∈ credentials, endsAuthority kind c = false) ∧ '@' ∉ withinAuthority kind t := by
  rw [cutCredentials_eq] at h
  cases hcut : Text.cutLast? '@' (withinAuthority kind s) with
  | none =>
    rw [hcut] at h
    cases h
    exact ⟨[], rfl, .inl rfl, nofun, Text.cutLast?_eq_none_iff.mp hcut⟩
  | some halves =>
    obtain ⟨front, after⟩ := halves
    obtain ⟨hsplit, hafter⟩ := Text.cutLast?_eq_some_iff.mp hcut
    -- the sign is the last one in front of what ends the authority
    have hall : ∀ c ∈ front ++ ['@'], endsAuthority kind c = false := by
      intro c hc
      have hmem : c ∈ withinAuthority kind s := by
        rw [hsplit, List.append_cons]
        exact List.mem_append_left after hc
      simpa using List.mem_takeWhile_imp hmem
    have hs : s = (front ++ ['@']) ++ s.drop (front.length + 1) := by
      obtain ⟨rest, hrest⟩ := List.takeWhile_prefix (l := s) fun c => !endsAuthority kind c
      rw [← withinAuthority, hsplit] at hrest
      rw [← hrest]
      simp
    have ht : t = s.drop (front.length + 1) := by
      rw [hcut] at h
      dsimp only at h
      split at h
      · cases h
      · exact (Prod.mk.inj (Prod.mk.inj (Except.ok.inj h)).2).2.symm
    rw [← ht] at hs
    have hwithin : withinAuthority kind t = after := by
      have hboth := withinAuthority_append hall t
      rw [← hs, hsplit, List.append_cons] at hboth
      exact (List.append_cancel_left hboth).symm
    exact ⟨front ++ ['@'], hs, .inr ⟨front, rfl⟩, hall, hwithin ▸ hafter⟩

/-! ### Hosts -/

/-- `EndsHost kind inside rest`: a text that is not part of the host in front of it. -/
inductive EndsHost (kind : SchemeKind) : Bool → List Char → Prop where
  | nothing {inside : Bool} : EndsHost kind inside []
  | colon {s : List Char} : EndsHost kind false (':' :: s)
  | ended {inside : Bool} {c : Char} {s : List Char} (ends : endsAuthority kind c = true) :
    EndsHost kind inside (c :: s)

theorem cutHost_enclosed {inside behind : Bool} {host rest : List Char}
    (h : Enclosed inside host behind) (hwithin : ∀ c ∈ host, endsAuthority kind c = false)
    (hrest : EndsHost kind behind rest) : cutHost kind inside (host ++ rest) = (host, rest) := by
  induction h with
  | nil =>
    cases hrest with
    | nothing => rfl
    | colon => rfl
    | ended ends => rw [List.nil_append, cutHost, ends, Bool.or_true, if_pos rfl]
  | cons colon enclosed ih =>
    have hmore := ih (fun c hc => hwithin c (List.mem_cons_of_mem _ hc)) hrest
    rw [List.cons_append, cutHost_cons colon (hwithin _ List.mem_cons_self)]
    dsimp only
    rw [← openBehind, hmore]

/-- What is cut from an authority as its host. -/
theorem enclosed_cutHost (kind : SchemeKind) (inside : Bool) (s : List Char) :
    ∃ host rest behind, cutHost kind inside s = (host, rest) ∧ s = host ++ rest ∧
      (∀ c ∈ host, endsAuthority kind c = false) ∧ Enclosed inside host behind ∧
        EndsHost kind behind rest := by
  induction s generalizing inside with
  | nil => exact ⟨[], [], inside, rfl, rfl, nofun, .nil, .nothing⟩
  | cons c s ih =>
    by_cases hends : endsAuthority kind c = true
    · refine ⟨[], c :: s, inside, ?_, rfl, nofun, .nil, .ended hends⟩
      rw [cutHost, hends, Bool.or_true, if_pos rfl]
    · have hstays : endsAuthority kind c = false := by simpa using hends
      by_cases hcolon : c ≠ ':' ∨ inside = true
      · obtain ⟨host, rest, behind, hcut, rfl, hwithin, henclosed, hrest⟩ :=
          ih (openBehind inside c)
        refine ⟨c :: host, rest, behind, ?_, rfl, ?_, .cons hcolon henclosed, hrest⟩
        · rw [cutHost_cons hcolon hstays]
          dsimp only
          rw [← openBehind, hcut]
        · intro d hd
          rcases List.mem_cons.mp hd with rfl | hd
          · exact hstays
          · exact hwithin d hd
      · obtain ⟨rfl, rfl⟩ : c = ':' ∧ inside = false := by simpa using hcolon
        exact ⟨[], ':' :: s, false, rfl, rfl, nofun, .nil, .colon⟩

/-! ### Ports -/

/-- What stands behind the digits of a port. -/
def EndsPort (rest : List Char) : Prop := ∀ c s, rest = c :: s → endsAuthority .network c = true

theorem digitValue?_of_endsAuthority {c : Char} (h : endsAuthority .network c = true) :
    Text.digitValue? c = none := by
  have hcases : ((c = '/' ∨ c = '?') ∨ c = '#') ∨ c = '\\' := by
    simpa [endsAuthority, SchemeKind.isSpecial] using h
  rcases hcases with ((rfl | rfl) | rfl) | rfl <;> rfl

/-- Digits are read as they are written. -/
theorem readPort_digits {acc : Nat} {any : Bool} {digits rest rest' : List Char} {port : Option Nat}
    (h : readPort acc any (digits ++ rest) = .ok (port, rest'))
    (hdecimal : ∀ c ∈ digits, c.isDigit = true) (hrest : EndsPort rest) :
    rest' = rest ∧
      port = if any || !digits.isEmpty then Text.readDigits? 10 acc digits else none := by
  induction digits generalizing acc any with
  | nil =>
    cases rest with
    | nil =>
      cases h
      cases any <;> exact ⟨rfl, rfl⟩
    | cons c rest =>
      have hends := hrest c rest rfl
      rw [List.nil_append, readPort, digitValue?_of_endsAuthority hends] at h
      dsimp only at h
      rw [if_pos hends] at h
      cases h
      cases any <;> exact ⟨rfl, rfl⟩
  | cons c digits ih =>
    obtain ⟨d, hd⟩ : ∃ d, Text.digitValue? c = some d :=
      Option.isSome_iff_exists.mp (Text.isSome_digitValue?.trans (hdecimal c List.mem_cons_self))
    rw [List.cons_append, readPort, hd] at h
    dsimp only at h
    split at h
    · obtain ⟨hsame, hport⟩ := ih h fun c hc => hdecimal c (List.mem_cons_of_mem _ hc)
      refine ⟨hsame, ?_⟩
      rw [hport, Text.readDigits?_ten_cons, hd]
      simp
    · cases h

/-- What is read as a port is made of digits. -/
theorem digits_of_readPort {acc : Nat} {any : Bool} {s rest : List Char} {port : Option Nat}
    (h : readPort acc any s = .ok (port, rest)) :
    ∃ digits, s = digits ++ rest ∧ (∀ c ∈ digits, c.isDigit = true) ∧ EndsPort rest := by
  induction s generalizing acc any with
  | nil =>
    cases h
    exact ⟨[], rfl, nofun, nofun⟩
  | cons c s ih =>
    rw [readPort] at h
    split at h
    · rename_i d hd
      split at h
      · obtain ⟨digits, rfl, hdecimal, hrest⟩ := ih h
        refine ⟨c :: digits, rfl, fun e he => ?_, hrest⟩
        rcases List.mem_cons.mp he with rfl | he
        · rw [← Text.isSome_digitValue?, hd]
          rfl
        · exact hdecimal e he
      · cases h
    · split at h
      · rename_i hends
        cases h
        refine ⟨[], rfl, nofun, ?_⟩
        rintro d t ⟨⟩
        exact hends
      · cases h

/-- A port is read as it is written. -/
theorem PortText.portAfter {portText rest rest' : List Char} {port port' : Option Nat}
    (h : PortText portText port) (hrest : EndsPort rest)
    (hread : Url.portAfter (portText ++ rest) = .ok (port', rest')) :
    port' = port ∧ rest' = rest := by
  cases h with
  | none =>
    rw [List.nil_append, portAfter_of_ne] at hread
    · cases hread
      exact ⟨rfl, rfl⟩
    · rintro t rfl
      exact absurd (hrest ':' t rfl) (by decide)
  | @colon digits decimal =>
    rw [List.cons_append, portAfter_colon] at hread
    obtain ⟨hsame, hport⟩ := readPort_digits hread decimal hrest
    refine ⟨?_, hsame⟩
    rw [hport, Text.readNat?]
    cases digits <;> rfl

/-! ### Authorities -/

theorem endsPort_of_endsAuthority {c : Char} (h : endsAuthority kind c = true) (s : List Char) :
    EndsPort (c :: s) := by
  rintro _ _ ⟨⟩
  cases kind with
  | other =>
    have hcases : (c = '/' ∨ c = '?') ∨ c = '#' := by
      simpa [endsAuthority, SchemeKind.isSpecial] using h
    rcases hcases with (rfl | rfl) | rfl <;> rfl
  | _ => exact h

theorem Remainder.endsPort {portText rest : List Char} (h : Remainder kind portText rest) :
    EndsPort rest := by
  cases h with
  | nothing => exact nofun
  | ended ends => exact endsPort_of_endsAuthority ends _
  | backslash =>
    rintro _ _ ⟨⟩
    rfl

theorem PortText.within {portText : List Char} {port : Option Nat} (h : PortText portText port)
    (kind : SchemeKind) :
    ∀ c ∈ portText, endsAuthority kind c = false ∧ c ≠ '@' := by
  have hcolon : endsAuthority kind ':' = false := by cases kind <;> rfl
  cases h with
  | none => nofun
  | colon decimal =>
    intro c hc
    rcases List.mem_cons.mp hc with rfl | hc
    · exact ⟨hcolon, by decide⟩
    · have hdigit := decimal c hc
      constructor
      · by_contra hends
        have hends : endsAuthority kind c = true := by simpa using hends
        have hnone := digitValue?_of_endsAuthority (endsPort_of_endsAuthority hends [] c [] rfl)
        rw [← Text.isSome_digitValue?, hnone] at hdigit
        cases hdigit
      · rintro rfl
        cases hdigit

theorem Remainder.unsigned {portText rest : List Char} (h : Remainder kind portText rest) :
    '@' ∉ withinAuthority kind rest := by
  cases h with
  | nothing => exact List.not_mem_nil
  | ended ends =>
    rw [withinAuthority_ends ends]
    exact List.not_mem_nil
  | @backslash t written last =>
    cases hkind : kind.isSpecial with
    | true =>
      have hends : endsAuthority kind '\\' = true := by simp [endsAuthority, hkind]
      rw [withinAuthority_ends hends]
      exact List.not_mem_nil
    | false =>
      have hstays : endsAuthority kind '\\' = false := by simp [endsAuthority, hkind]
      rw [withinAuthority_stays hstays]
      simpa using last

namespace Spelled

variable {credentials host portText rest : List Char} {port : Option Nat}

theorem unsigned_location (h : Spelled kind credentials host portText rest port) :
    '@' ∉ withinAuthority kind (host ++ (portText ++ rest)) := by
  rw [withinAuthority_append fun c hc => h.within c (List.mem_append_right _ hc),
    withinAuthority_append fun c hc => (h.port.within kind c hc).1, List.mem_append,
    List.mem_append]
  rintro (hhost | hport | hrest)
  · exact h.unsigned hhost
  · exact (h.port.within kind _ hport).2 rfl
  · exact h.remainder.unsigned hrest

theorem cutCredentials (h : Spelled kind credentials host portText rest port) :
    ∃ name password, Url.cutCredentials kind (credentials ++ (host ++ (portText ++ rest)))
      = .ok (name, password, host ++ (portText ++ rest)) := by
  have hunsigned := h.unsigned_location
  rcases h.signed with rfl | ⟨front, rfl⟩
  · exact ⟨"", "", cutCredentials_unsigned hunsigned⟩
  · obtain ⟨c, t, rfl⟩ := List.exists_cons_of_ne_nil h.named
    rw [List.append_assoc, List.singleton_append]
    refine ⟨_, _, cutCredentials_signed (fun d hd => ?_) (h.within c (by simp)) hunsigned⟩
    exact h.within d (List.mem_append_left _ (List.mem_append_left _ hd))

theorem cutHost (h : Spelled kind credentials host portText rest port) :
    Url.cutHost kind false (host ++ (portText ++ rest)) = (host, portText ++ rest) := by
  obtain ⟨behind, henclosed, hclosed⟩ := h.enclosed
  refine cutHost_enclosed henclosed (fun c hc => h.within c (List.mem_append_right _ hc)) ?_
  cases h.port with
  | none =>
    cases h.remainder with
    | nothing => exact .nothing
    | ended ends => exact .ended ends
    | backslash written => exact absurd rfl written
  | colon decimal =>
    obtain rfl := hclosed.resolve_left (List.cons_ne_nil _ _)
    exact .colon

/-- Host and port are read as they are spelled. -/
theorem readAuthority {scheme : String} {a : Authority} {rest' : List Char}
    (h : Spelled (SchemeKind.of scheme) credentials host portText rest port)
    (hread : Url.readAuthority scheme (credentials ++ (host ++ (portText ++ rest)))
      = .ok (a, rest')) :
    hostOf (SchemeKind.of scheme) host = .ok a.host ∧
      a.port = if port = defaultPort? scheme then none else port := by
  obtain ⟨name, password, hcredentials⟩ := h.cutCredentials
  obtain ⟨t, port', hcut, hhost, hport, hkept⟩ := readAuthority_parts hread
  obtain rfl := (Prod.mk.inj (Prod.mk.inj (Except.ok.inj (hcredentials.symm.trans hcut))).2).2
  rw [h.cutHost] at hhost hport
  obtain ⟨rfl, -⟩ := h.port.portAfter h.remainder.endsPort hport
  exact ⟨hhost, hkept⟩

end Spelled

/-- What ends a port ends the authority, or is a backslash with further parts of it behind it. -/
theorem remainder_of_endsPort {digits rest : List Char} (hdecimal : ∀ c ∈ digits, c.isDigit = true)
    (hrest : EndsPort rest) (hunsigned : '@' ∉ withinAuthority kind (':' :: (digits ++ rest))) :
    Remainder kind (':' :: digits) rest := by
  cases rest with
  | nil => exact .nothing
  | cons c rest =>
    cases hends : endsAuthority kind c with
    | true => exact .ended hends
    | false =>
      have hcases : ((c = '/' ∨ c = '?') ∨ c = '#') ∨ c = '\\' := by
        simpa [endsAuthority, SchemeKind.isSpecial] using hrest c rest rfl
      obtain rfl : c = '\\' := by
        rcases hcases with ((rfl | rfl) | rfl) | rfl <;> simp [endsAuthority] at hends ⊢
      -- the sign is not among the digits either, so that it is not behind the backslash
      have hport := PortText.colon hdecimal
      rw [← List.cons_append, withinAuthority_append fun d hd => (hport.within kind d hd).1,
        withinAuthority_stays hends, List.mem_append, not_or] at hunsigned
      exact .backslash (List.cons_ne_nil _ _)
        fun hmem => hunsigned.2 (List.mem_cons_of_mem _ hmem)

/-- No host is read from nothing. -/
theorem hostOf_ne_nil {text : List Char} {host : Host} (h : hostOf kind text = .ok host)
    (hne : host ≠ .domain "") : text ≠ [] := by
  rintro rfl
  cases kind <;> cases h
  exact hne rfl

/-- Whatever is read has been spelled as credentials, a host and a port. -/
theorem exists_spelled {scheme : String} {s rest' : List Char} {a : Authority}
    (hread : readAuthority scheme s = .ok (a, rest')) (hne : a.host ≠ .domain "") :
    ∃ credentials host portText rest port, s = credentials ++ (host ++ (portText ++ rest)) ∧
      Spelled (SchemeKind.of scheme) credentials host portText rest port := by
  obtain ⟨t, port, hcredentials, hhost, hport, -⟩ := readAuthority_parts hread
  obtain ⟨credentials, rfl, hsigned, hwithin, hunsigned⟩ := cutCredentials_eq_ok hcredentials
  obtain ⟨host, rest, behind, hcut, rfl, hwithinHost, henclosed, hends⟩ :=
    enclosed_cutHost (SchemeKind.of scheme) false t
  rw [hcut] at hhost hport
  have hnamed := hostOf_ne_nil hhost hne
  have hall : ∀ c ∈ credentials ++ host, endsAuthority (SchemeKind.of scheme) c = false :=
    fun c hc => (List.mem_append.mp hc).elim (hwithin c) (hwithinHost c)
  rw [withinAuthority_append hwithinHost, List.mem_append, not_or] at hunsigned
  obtain ⟨hunsigned, hbehind⟩ := hunsigned
  cases hends with
  | nothing =>
    exact ⟨credentials, host, [], [], none, rfl, hsigned, hall, hnamed, hunsigned,
      ⟨behind, henclosed, .inl rfl⟩, .none, .nothing⟩
  | ended ends =>
    exact ⟨credentials, host, [], _, none, rfl, hsigned, hall, hnamed, hunsigned,
      ⟨behind, henclosed, .inl rfl⟩, .none, .ended ends⟩
  | @colon t =>
    obtain ⟨digits, rfl, hdecimal, hrest⟩ := digits_of_readPort hport
    refine ⟨credentials, host, ':' :: digits, rest', _, rfl, hsigned, hall, hnamed, hunsigned,
      ⟨false, henclosed, .inr rfl⟩, .colon hdecimal, ?_⟩
    exact remainder_of_endsPort hdecimal hrest hbehind

/-! ### Whole URLs -/

/-- The scheme of a URL with an authority that may hold a port, and the text from the authority on.
The URL of a file has none. -/
def authorityOf? (text : String) : Option (String × List Char) :=
  match cutScheme? (cleaned text.toList) with
  | none => none
  | some (scheme, s) =>
    match SchemeKind.of scheme with
    | .file => none
    | .network => some (scheme, s.dropWhile fun c => c == '/' || c == '\\')
    | .other =>
      match s with
      | '/' :: '/' :: t => some (scheme, t)
      | _ => none

theorem parse_of_authorityOf? {text scheme : String} {s : List Char}
    (h : authorityOf? text = some (scheme, s)) : parse text = parseHierarchical scheme s := by
  unfold authorityOf? at h
  unfold parse
  cases hcut : cutScheme? (cleaned text.toList) with
  | none =>
    rw [hcut] at h
    cases h
  | some found =>
    obtain ⟨name, t⟩ := found
    rw [hcut] at h
    dsimp only at h ⊢
    cases hkind : SchemeKind.of name with
    | file =>
      rw [hkind] at h
      cases h
    | network =>
      rw [hkind] at h
      cases h
      rfl
    | other =>
      rw [hkind] at h
      dsimp only at h ⊢
      split at h
      · cases h
        rfl
      · cases h

/-- A URL with a host and a port has an authority that may hold a port. -/
theorem exists_authorityOf? {text host : String} {u : Url} {port : Nat} (h : parse text = .ok u)
    (hhost : u.hostText? = some host) (hport : u.effectivePort? = some port) :
    ∃ scheme s, authorityOf? text = some (scheme, s) := by
  unfold parse at h
  unfold authorityOf?
  cases hcut : cutScheme? (cleaned text.toList) with
  | none =>
    rw [hcut] at h
    cases h
  | some found =>
    obtain ⟨scheme, s⟩ := found
    rw [hcut] at h
    dsimp only at h ⊢
    cases hkind : SchemeKind.of scheme with
    | file =>
      -- the URL of a file has no port
      rw [hkind] at h
      obtain ⟨hscheme, found, parts, hauthority, -⟩ := parseFile_eq_ok h
      rw [effectivePort?, hauthority, hscheme] at hport
      cases hport
    | network => exact ⟨_, _, rfl⟩
    | other =>
      rw [hkind] at h
      dsimp only at h ⊢
      split at h
      · exact ⟨_, _, rfl⟩
      · cases h
        rw [hostText?, (parseOther_apart scheme s).1] at hhost
        cases hhost

/-- The port that is written, or else the one that the scheme implies. -/
theorem effectivePort?_of_kept {u : Url} {a : Authority} {port : Option Nat}
    (ha : u.authority = some a)
    (hkept : a.port = if port = defaultPort? u.scheme then none else port) :
    u.effectivePort? = port.or (defaultPort? u.scheme) := by
  rw [effectivePort?, ha, Option.bind_some, hkept]
  by_cases hdefault : port = defaultPort? u.scheme
  · rw [if_pos hdefault, hdefault, Option.or_self]
  · rw [if_neg hdefault]
    cases port <;> rfl

/-- Host and port of a URL are read as they are spelled. -/
theorem Spelled.parse {text scheme : String} {credentials host portText rest : List Char}
    {port : Option Nat} {u : Url}
    (htext : authorityOf? text = some (scheme, credentials ++ (host ++ (portText ++ rest))))
    (h : Spelled (SchemeKind.of scheme) credentials host portText rest port)
    (hparse : Url.parse text = .ok u) :
    ∃ a, u.authority = some a ∧ hostOf (SchemeKind.of scheme) host = .ok a.host ∧
      u.effectivePort? = port.or (defaultPort? scheme) := by
  rw [parse_of_authorityOf? htext] at hparse
  obtain ⟨rfl, a, rest', parts, hread, ha, -⟩ := parseHierarchical_eq_ok hparse
  obtain ⟨hhost, hkept⟩ := h.readAuthority hread
  exact ⟨a, ha, hhost, effectivePort?_of_kept ha hkept⟩

/-- A URL with a host and a port is spelled with them. -/
theorem parse_spelled {text host : String} {u : Url} {port : Nat} (h : Url.parse text = .ok u)
    (hhost : u.hostText? = some host) (hport : u.effectivePort? = some port) :
    ∃ scheme credentials hostText portText rest written,
      authorityOf? text = some (scheme, credentials ++ (hostText ++ (portText ++ rest))) ∧
        Spelled (SchemeKind.of scheme) credentials hostText portText rest written := by
  obtain ⟨scheme, s, htext⟩ := exists_authorityOf? h hhost hport
  rw [parse_of_authorityOf? htext] at h
  obtain ⟨-, a, rest', parts, hread, ha, -⟩ := parseHierarchical_eq_ok h
  have hne : a.host ≠ .domain "" := by
    intro hempty
    rw [hostText?, ha] at hhost
    simp [hempty] at hhost
  obtain ⟨credentials, hostText, portText, rest, written, rfl, hspelled⟩ :=
    exists_spelled hread hne
  exact ⟨scheme, credentials, hostText, portText, rest, written, htext, hspelled⟩

end Url

end Carrier
