import Carrier.Proofs.Text.Fields
import Carrier.Proofs.Url.Reading

/-!
# A host and a port

A host and a port that are written without characters of the rest of a URL are read as they stand:
each of them alone.

- `Url.readPort_plain`: a port is a decimal number below 65536.
- `Url.IsPlainHost`, `Url.IsPlainPort`: texts without characters of the rest of a URL.
- `Url.parse_hostPort`: the URL that a host and a port make up over HTTPS.
-/

namespace Carrier

namespace Text

/-! ### Decimal digits -/

/-- A number does not become less by further digits. -/
theorem readDigits?_le {base acc n : Nat} {s : List Char} (hbase : 0 < base)
    (h : readDigits? base acc s = some n) : acc ≤ n := by
  induction s generalizing acc with
  | nil =>
    cases h
    exact Nat.le_refl _
  | cons c s ih =>
    unfold readDigits? at h
    split at h
    · split at h
      · rename_i d _ _
        have hmore : acc * base + d ≤ n := ih h
        have hshift : acc ≤ acc * base := Nat.le_mul_of_pos_right acc hbase
        omega
      · cases h
    · cases h

/-- A decimal digit is a digit of larger bases too, with the same value. -/
theorem digitValue?_eq_some {c : Char} {d : Nat} :
    digitValue? c = some d ↔ hexValue? c = some d ∧ d < 10 := by
  unfold digitValue? hexValue?
  by_cases hdigit : '0' ≤ c ∧ c ≤ '9'
  · have hupper : c.toNat ≤ '9'.toNat := hdigit.2
    rw [if_pos hdigit, if_pos hdigit]
    constructor
    · intro h
      refine ⟨h, ?_⟩
      cases h
      show c.toNat - 48 < 10
      have : '9'.toNat = 57 := rfl
      omega
    · exact And.left
  · rw [if_neg hdigit, if_neg hdigit]
    constructor
    · intro h
      cases h
    · rintro ⟨h, hd⟩
      split at h
      · cases h
        omega
      · split at h
        · cases h
          omega
        · cases h

theorem readDigits?_ten_cons (acc : Nat) (c : Char) (s : List Char) :
    readDigits? 10 acc (c :: s) =
      (digitValue? c).bind fun d => readDigits? 10 (acc * 10 + d) s := by
  cases hvalue : digitValue? c with
  | some d =>
    obtain ⟨hhex, hlt⟩ := digitValue?_eq_some.mp hvalue
    rw [readDigits?, hhex]
    show (if d < 10 then _ else _) = _
    rw [if_pos hlt]
    rfl
  | none =>
    rw [readDigits?]
    cases hhex : hexValue? c with
    | none => rfl
    | some d =>
      show (if d < 10 then _ else _) = _
      rw [if_neg]
      · rfl
      · intro hlt
        have := digitValue?_eq_some.mpr ⟨hhex, hlt⟩
        rw [hvalue] at this
        cases this

end Text

namespace Url

/-! ### Ports -/

/-- What a port comes to that has been read as a number. -/
def portOf : Option Nat → Except UrlFault (Option Nat × List Char)
  | some n => if n < 65536 then .ok (some n, []) else .error .invalidPort
  | none => .error .invalidPort

/-- After some digits a port is read as a decimal number that may have further ones. -/
theorem readPort_more {acc : Nat} {s : List Char} (hacc : acc < 65536)
    (hs : ∀ c ∈ s, endsAuthority .network c = false) :
    readPort acc true s = portOf (Text.readDigits? 10 acc s) := by
  induction s generalizing acc with
  | nil =>
    show _ = if acc < 65536 then _ else _
    rw [if_pos hacc]
    rfl
  | cons c s ih =>
    rw [Text.readDigits?_ten_cons, readPort]
    cases Text.digitValue? c with
    | none =>
      have hc := hs c List.mem_cons_self
      show (if endsAuthority .network c = true then _ else _) = _
      rw [if_neg (by simp [hc])]
      rfl
    | some d =>
      show (if acc * 10 + d < 65536 then _ else _) = portOf (Text.readDigits? 10 (acc * 10 + d) s)
      by_cases hsmall : acc * 10 + d < 65536
      · rw [if_pos hsmall, ih hsmall fun c hc => hs c (List.mem_cons_of_mem _ hc)]
      · rw [if_neg hsmall]
        -- further digits do not bring the number below the bound again
        cases hdigits : Text.readDigits? 10 (acc * 10 + d) s with
        | none => rfl
        | some n =>
          have hle := Text.readDigits?_le (by decide) hdigits
          show _ = if n < 65536 then _ else _
          rw [if_neg (by omega)]

/-- A port is a decimal number below 65536. -/
theorem readPort_plain {s : List Char} (hne : s ≠ [])
    (hs : ∀ c ∈ s, endsAuthority .network c = false) :
    readPort 0 false s = portOf (Text.readNat? s) := by
  cases s with
  | nil => exact absurd rfl hne
  | cons c s =>
    have hc := hs c List.mem_cons_self
    have hany : readPort 0 false (c :: s) = readPort 0 true (c :: s) := by
      rw [readPort, readPort]
      cases Text.digitValue? c with
      | none =>
        show (if endsAuthority .network c = true then _ else _) = if _ then _ else _
        rw [if_neg (by simp [hc]), if_neg (by simp [hc])]
      | some d => rfl
    rw [hany, readPort_more (by decide) hs]
    rfl

/-! ### Texts without characters of the rest of a URL -/

/-- Characters that part an authority from the rest of a URL, that end credentials, or that do not
count at all. -/
def isForeign (c : Char) : Bool :=
  endsAuthority .network c || c == '@' || c == '\t' || c == '\n' || c == '\r'

/-- The text of a host without characters of the rest of a URL, and without the bracket that begins
an address with colons. -/
def IsPlainHost (s : List Char) : Prop :=
  ∀ c ∈ s, isForeign c = false ∧ c ≠ ':' ∧ c ≠ '['

/-- The text of a port without characters of the rest of a URL, and with no blank at its end. -/
structure IsPlainPort (s : List Char) : Prop where
  /-- Something is written. -/
  nonempty : s ≠ []
  /-- No character belongs to the rest of a URL. -/
  own : ∀ c ∈ s, isForeign c = false
  /-- The last character counts. -/
  closed : ∀ c, s.getLast? = some c → 0x20 < c.toNat

instance (s : List Char) : Decidable (IsPlainHost s) :=
  decidable_of_iff (s.all fun c => !isForeign c && c != ':' && c != '[') (by
    simp [IsPlainHost, and_assoc])

instance (s : List Char) : Decidable (IsPlainPort s) :=
  decidable_of_iff
    (s ≠ [] ∧ s.all (fun c => !isForeign c) ∧ s.getLast?.all (fun c => decide (0x20 < c.toNat)))
    (by
      simp only [List.all_eq_true, Bool.not_eq_true', Option.all_eq_true, decide_eq_true_eq]
      exact ⟨fun ⟨hne, hown, hclosed⟩ => ⟨hne, hown, hclosed⟩,
        fun ⟨hne, hown, hclosed⟩ => ⟨hne, hown, hclosed⟩⟩)

theorem isForeign_eq_false {c : Char} (h : isForeign c = false) :
    endsAuthority .network c = false ∧ c ≠ '@' ∧ c ≠ '\t' ∧ c ≠ '\n' ∧ c ≠ '\r' := by
  simpa [isForeign, and_assoc] using h

/-- The host of an authority ends at a colon. -/
theorem cutHost_plain {host rest : List Char} (hhost : IsPlainHost host) :
    cutHost .network false (host ++ ':' :: rest) = (host, ':' :: rest) := by
  refine cutHost_colon (fun c hc => ?_) rest
  obtain ⟨hforeign, hcolon, hbracket⟩ := hhost c hc
  exact ⟨hcolon, hbracket, (isForeign_eq_false hforeign).1⟩

/-- Nothing around a host and a port is left out. -/
theorem afterSlashes_plain {host port : List Char} (hhost : IsPlainHost host)
    (hport : IsPlainPort port) : afterSlashes (host ++ ':' :: port) = host ++ ':' :: port := by
  have hforeign : ∀ c ∈ host ++ ':' :: port, isForeign c = false := by
    intro c hc
    rcases List.mem_append.mp hc with hc | hc
    · exact (hhost c hc).1
    · rcases List.mem_cons.mp hc with rfl | hc
      · rfl
      · exact hport.own c hc
  have hend : Text.dropEndWhile (·.toNat ≤ 0x20) (host ++ ':' :: port) = host ++ ':' :: port := by
    obtain ⟨front, last, hsplit⟩ : ∃ front last, port = front ++ [last] :=
      ⟨_, _, (List.dropLast_concat_getLast hport.nonempty).symm⟩
    have hlast : 0x20 < last.toNat := hport.closed last (by simp [hsplit])
    have hkept : (decide (last.toNat ≤ 0x20)) = false := by simpa using hlast
    have hwhole : host ++ ':' :: port = (host ++ ':' :: front) ++ last :: [] := by simp [hsplit]
    rw [hwhole, Text.dropEndWhile_append hkept]
    rfl
  have hkeep : (host ++ ':' :: port).filter (fun c => c != '\t' && c != '\n' && c != '\r')
      = host ++ ':' :: port := by
    refine List.filter_eq_self.mpr ?_
    intro c hc
    obtain ⟨-, -, htab, hline, hreturn⟩ := isForeign_eq_false (hforeign c hc)
    simp [htab, hline, hreturn]
  rw [afterSlashes, hend, hkeep]
  cases hwhole : host ++ ':' :: port with
  | nil => simp at hwhole
  | cons c rest =>
    have hends := (isForeign_eq_false (hforeign c (hwhole ▸ List.mem_cons_self))).1
    have hslash : (c == '/' || c == '\\') = false := by
      simp [endsAuthority, SchemeKind.isSpecial] at hends
      simp [hends]
    exact List.dropWhile_cons_of_neg (by simp [hslash])

theorem cutCredentials_plain {s : List Char} (h : '@' ∉ s) (kind : SchemeKind) :
    cutCredentials kind s = .ok ("", "", s) := by
  have hfront : '@' ∉ s.takeWhile fun c => !endsAuthority kind c := by
    intro hmem
    exact h ((List.takeWhile_prefix _).subset hmem)
  unfold cutCredentials
  dsimp only
  rw [Text.cutLast?_eq_none hfront]

/-! ### The URL of a host and a port -/

/-- The URL of a host and a port over HTTPS, or with the scheme that carries a WebSocket there. -/
def ofHostPort (scheme : String) (host : Host) (port : Nat) : Url where
  scheme := scheme
  authority := some ⟨"", "", host, if port = 443 then none else some port⟩
  path := .segments [""]
  query := none
  fragment := none

/-- The authority of a host and a port. -/
theorem readAuthority_plain {host port : List Char} (hhost : IsPlainHost host)
    (hport : IsPlainPort port) :
    readAuthority "https" (host ++ ':' :: port) =
      (Host.parse host).bind fun h => (portOf (Text.readNat? port)).map fun (p, rest) =>
        (⟨"", "", h, if p = some 443 then none else p⟩, rest) := by
  have hkind : SchemeKind.of "https" = .network := rfl
  have hsign : '@' ∉ host ++ ':' :: port := by
    intro hmem
    rcases List.mem_append.mp hmem with hmem | hmem
    · exact absurd (hhost _ hmem).1 (by decide)
    · rcases List.mem_cons.mp hmem with hcolon | hmem
      · exact absurd hcolon (by decide)
      · exact absurd (hport.own _ hmem) (by decide)
  have hends : ∀ c ∈ port, endsAuthority .network c = false := fun c hc =>
    (isForeign_eq_false (hport.own c hc)).1
  rw [readAuthority_special rfl, cutCredentials_plain hsign, hkind]
  show (Host.parse (cutHost .network false (host ++ ':' :: port)).1).bind _ = _
  rw [cutHost_plain hhost, portAfter_colon, readPort_plain hport.nonempty hends]
  rfl

/-- A host and a port over HTTPS are each read alone, and nothing else is. -/
theorem parse_hostPort {host port : String} (hhost : IsPlainHost host.toList)
    (hport : IsPlainPort port.toList) (u : Url) :
    parse ("https://" ++ host ++ ":" ++ port) = .ok u ↔
      ∃ h n, Host.parse host.toList = .ok h ∧ Text.readNat? port.toList = some n ∧ n < 65536 ∧
        u = ofHostPort "https" h n := by
  have hchars : (host ++ ":" ++ port).toList = host.toList ++ ':' :: port.toList := by
    rw [String.toList_append, String.toList_append, List.append_assoc]
    rfl
  have hwhole : "https://" ++ host ++ ":" ++ port = "https://" ++ (host ++ ":" ++ port) := by
    rw [String.append_assoc, String.append_assoc, String.append_assoc]
  rw [hwhole, parse_https, hchars, afterSlashes_plain hhost hport]
  unfold parseHierarchical
  rw [readAuthority_plain hhost hport]
  cases Host.parse host.toList with
  | error fault => simp [Except.bind, bind]
  | ok h =>
    cases Text.readNat? port.toList with
    | none => simp [Except.bind, Except.map, bind, portOf]
    | some n =>
      by_cases hn : n < 65536
      · have hport443 : (if some n = some 443 then none else some n)
            = if n = 443 then none else some n := by simp
        simp only [portOf, if_pos hn, Except.map, Except.bind, bind, hport443]
        constructor
        · intro hu
          exact ⟨h, n, rfl, rfl, hn, (Except.ok.inj hu).symm⟩
        · rintro ⟨h', n', hh, hn', -, rfl⟩
          cases hh
          cases hn'
          rfl
      · simp [Except.bind, Except.map, bind, portOf, hn]

end Url

end Carrier
