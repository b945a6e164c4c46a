import Carrier.Text.Utf8
import Mathlib.Data.Nat.Notation

/-!
# Well-formed UTF-8

- `Utf8.check_append`: octets may be checked in parts.
- `Utf8.check_inside`: what may follow inside a character.
- `Utf8.encodeChar_ofNat`: the octets of a character, by its number.
- `Utf8.check_start`: what is accepted begins with a character.
- `Utf8.check_iff`: the octets that are accepted are those of a text.
-/

namespace Carrier

namespace Utf8

/-- Octets may be checked in parts. -/
theorem check_append (s : State) (a b : List UInt8) :
    check s (a ++ b) = (check s a).bind fun s => check s b := by
  induction a generalizing s with
  | nil => rfl
  | cons x a ih =>
    simp only [List.cons_append, check]
    cases step s x with
    | none => rfl
    | some result => exact ih result.1

/-! ### Inside a character -/

/-- The state after an octet inside a character, with the value up to that octet. -/
def after (left value : Nat) : State :=
  match left with
  | 0 => .boundary
  | left + 1 => .inside left 0x80 0xBF value

theorem check_inside_cons (left lo hi value : Nat) (b : UInt8) (rest : List UInt8) :
    check (.inside left lo hi value) (b :: rest)
      = if b.toNat < lo ∨ hi < b.toNat then none
        else check (after left (value * 64 + b.toNat % 64)) rest := by
  by_cases hb : b.toNat < lo ∨ hi < b.toNat
  · simp [check, step, hb]
  · cases left <;> simp [check, step, hb, after]

/-- Inside a character an octet within the bounds has to follow. -/
theorem check_inside {left lo hi value : Nat} {bytes : List UInt8}
    (h : check (.inside left lo hi value) bytes = some .boundary) :
    ∃ b rest, bytes = b :: rest ∧ lo ≤ b.toNat ∧ b.toNat ≤ hi ∧
      check (after left (value * 64 + b.toNat % 64)) rest = some .boundary := by
  cases bytes with
  | nil => cases h
  | cons b rest =>
    rw [check_inside_cons] at h
    split at h
    · cases h
    · rename_i hb
      exact ⟨b, rest, rfl, by omega, by omega, h⟩

/-! ### The first octet of a character -/

theorem check_one {a : UInt8} (ha : a.toNat < 0x80) (rest : List UInt8) :
    check .boundary (a :: rest) = check .boundary rest := by
  simp [check, step, ha]

theorem check_refused {a : UInt8} (ha : 0x80 ≤ a.toNat) (ha' : a.toNat < 0xC2 ∨ 0xF5 ≤ a.toNat)
    (rest : List UInt8) : check .boundary (a :: rest) = none := by
  have hstep : step .boundary a = none := by
    simp only [step]
    rcases ha' with ha' | ha'
    · rw [if_neg (by omega), if_pos (by omega)]
    · repeat rw [if_neg (by omega)]
  simp only [check, hstep]

theorem check_two {a : UInt8} {x : Nat} (hx : a.toNat = x + 0xC0) (hlow : 2 ≤ x) (hhigh : x < 32)
    (rest : List UInt8) :
    check .boundary (a :: rest) = check (.inside 0 0x80 0xBF x) rest := by
  have hstep : step .boundary a = some (.inside 0 0x80 0xBF x, none) := by
    simp only [step]
    rw [if_neg (by omega), if_neg (by omega), if_pos (by omega), hx, Nat.add_sub_cancel]
  simp only [check, hstep]

/-- The least second octet of three rules overlong forms out, and the greatest surrogates. -/
theorem check_three {a : UInt8} {x : Nat} (hx : a.toNat = x + 0xE0) (hhigh : x < 16)
    (rest : List UInt8) :
    check .boundary (a :: rest)
      = check (.inside 1 (if x = 0 then 0xA0 else 0x80) (if x = 0xD then 0x9F else 0xBF) x)
          rest := by
  have hstep : step .boundary a
      = some (.inside 1 (if x = 0 then 0xA0 else 0x80) (if x = 0xD then 0x9F else 0xBF) x,
          none) := by
    simp only [step]
    rw [if_neg (by omega), if_neg (by omega), if_neg (by omega), hx, Nat.add_sub_cancel]
    by_cases hzero : x = 0
    · simp [hzero]
    · by_cases hd : x = 0xD
      · simp [hd]
      · rw [if_neg (by omega), if_neg (by omega), if_pos (by omega), if_neg hzero, if_neg hd]
  simp only [check, hstep]

/-- The least second octet of four rules overlong forms out, and the greatest what lies above the
last character. -/
theorem check_four {a : UInt8} {x : Nat} (hx : a.toNat = x + 0xF0) (hhigh : x < 5)
    (rest : List UInt8) :
    check .boundary (a :: rest)
      = check (.inside 2 (if x = 0 then 0x90 else 0x80) (if x = 4 then 0x8F else 0xBF) x)
          rest := by
  have hstep : step .boundary a
      = some (.inside 2 (if x = 0 then 0x90 else 0x80) (if x = 4 then 0x8F else 0xBF) x,
          none) := by
    simp only [step]
    rw [if_neg (by omega), if_neg (by omega), if_neg (by omega), if_neg (by omega),
      if_neg (by omega), if_neg (by omega), hx, Nat.add_sub_cancel]
    by_cases hzero : x = 0
    · simp [hzero]
    · by_cases hlast : x = 4
      · simp [hlast]
      · rw [if_neg (by omega), if_pos (by omega), if_neg hzero, if_neg hlast]
  simp only [check, hstep]

/-! ### The octets of a character -/

theorem val_ofNat {n : Nat} (h : n.isValidChar) : (Char.ofNat n).val.toNat = n := by
  have hchar : Char.ofNat n = Char.ofNatAux n h := dif_pos h
  rw [hchar]
  rfl

theorem ofNat_eq {n : Nat} {b : UInt8} (h : n = b.toNat) : UInt8.ofNat n = b := by
  rw [h, UInt8.ofNat_toNat]

theorem encodeChar_one {a : UInt8} (ha : a.toNat < 0x80) :
    String.utf8EncodeChar (Char.ofNat a.toNat) = [a] := by
  have hval := val_ofNat (n := a.toNat) (.inl (by omega))
  simp only [String.utf8EncodeChar, hval]
  rw [if_pos (by omega), ofNat_eq rfl]

/-- A character of two octets, with the first octet's share `x` of its number. -/
theorem encodeChar_two {a b : UInt8} {x : Nat} (hx : a.toNat = x + 0xC0) (hlow : 2 ≤ x)
    (hhigh : x < 32) (hb : 0x80 ≤ b.toNat) (hb' : b.toNat ≤ 0xBF) :
    String.utf8EncodeChar (Char.ofNat (x * 64 + b.toNat % 64)) = [a, b] := by
  have hval := val_ofNat (n := x * 64 + b.toNat % 64) (.inl (by omega))
  simp only [String.utf8EncodeChar, hval]
  rw [if_neg (by omega), if_pos (by omega), ofNat_eq (b := a) (by omega),
    ofNat_eq (b := b) (by omega)]

/-- A character of three octets, with the first octet's share `x` of its number. -/
theorem encodeChar_three {a b c : UInt8} {x : Nat} (hx : a.toNat = x + 0xE0) (hx' : x < 16)
    (hb : 0x80 ≤ b.toNat) (hb' : b.toNat ≤ 0xBF) (hc : 0x80 ≤ c.toNat) (hc' : c.toNat ≤ 0xBF)
    (hlong : x = 0 → 0xA0 ≤ b.toNat) (hsurrogate : x = 0xD → b.toNat ≤ 0x9F) :
    String.utf8EncodeChar (Char.ofNat ((x * 64 + b.toNat % 64) * 64 + c.toNat % 64))
      = [a, b, c] := by
  have hvalid : ((x * 64 + b.toNat % 64) * 64 + c.toNat % 64).isValidChar := by
    unfold Nat.isValidChar
    omega
  have hval := val_ofNat hvalid
  simp only [String.utf8EncodeChar, hval]
  rw [if_neg (by omega), if_neg (by omega), if_pos (by omega), ofNat_eq (b := a) (by omega),
    ofNat_eq (b := b) (by omega), ofNat_eq (b := c) (by omega)]

/-- A character of four octets, with the first octet's share `x` of its number. -/
theorem encodeChar_four {a b c d : UInt8} {x : Nat} (hx : a.toNat = x + 0xF0) (hx' : x < 5)
    (hb : 0x80 ≤ b.toNat) (hb' : b.toNat ≤ 0xBF) (hc : 0x80 ≤ c.toNat) (hc' : c.toNat ≤ 0xBF)
    (hd : 0x80 ≤ d.toNat) (hd' : d.toNat ≤ 0xBF) (hlong : x = 0 → 0x90 ≤ b.toNat)
    (hlast : x = 4 → b.toNat ≤ 0x8F) :
    String.utf8EncodeChar (Char.ofNat
      (((x * 64 + b.toNat % 64) * 64 + c.toNat % 64) * 64 + d.toNat % 64)) = [a, b, c, d] := by
  have hvalid : (((x * 64 + b.toNat % 64) * 64 + c.toNat % 64) * 64 + d.toNat % 64).isValidChar := by
    unfold Nat.isValidChar
    omega
  have hval := val_ofNat hvalid
  simp only [String.utf8EncodeChar, hval]
  rw [if_neg (by omega), if_neg (by omega), if_neg (by omega), ofNat_eq (b := a) (by omega),
    ofNat_eq (b := b) (by omega), ofNat_eq (b := c) (by omega), ofNat_eq (b := d) (by omega)]

/-! ### Texts -/

theorem start_of_encodeChar {c : Char} {front tail : List UInt8}
    (hchar : String.utf8EncodeChar c = front) (h : check .boundary tail = some .boundary) :
    ∃ c rest, front ++ tail = String.utf8EncodeChar c ++ rest ∧
      check .boundary rest = some .boundary :=
  ⟨c, tail, by rw [hchar], h⟩

/-- What is accepted begins with a character. -/
theorem check_start {a : UInt8} {bytes : List UInt8}
    (h : check .boundary (a :: bytes) = some .boundary) :
    ∃ c rest, a :: bytes = String.utf8EncodeChar c ++ rest ∧
      check .boundary rest = some .boundary := by
  by_cases hone : a.toNat < 0x80
  · rw [check_one hone] at h
    exact start_of_encodeChar (encodeChar_one hone) h
  by_cases hrefused : a.toNat < 0xC2 ∨ 0xF5 ≤ a.toNat
  · rw [check_refused (by omega) hrefused] at h
    cases h
  by_cases htwo : a.toNat < 0xE0
  · have hx : a.toNat = (a.toNat - 0xC0) + 0xC0 := by omega
    rw [check_two hx (by omega) (by omega)] at h
    obtain ⟨b, tail, rfl, hb, hb', h⟩ := check_inside h
    exact start_of_encodeChar (encodeChar_two hx (by omega) (by omega) hb hb') h
  by_cases hthree : a.toNat < 0xF0
  · have hx : a.toNat = (a.toNat - 0xE0) + 0xE0 := by omega
    rw [check_three hx (by omega)] at h
    obtain ⟨b, rest, rfl, hb, hb', h⟩ := check_inside h
    obtain ⟨c, tail, rfl, hc, hc', h⟩ := check_inside h
    refine start_of_encodeChar (encodeChar_three hx ?_ ?_ ?_ hc hc' ?_ ?_) h <;> grind
  · have hx : a.toNat = (a.toNat - 0xF0) + 0xF0 := by omega
    rw [check_four hx (by omega)] at h
    obtain ⟨b, rest, rfl, hb, hb', h⟩ := check_inside h
    obtain ⟨c, rest, rfl, hc, hc', h⟩ := check_inside h
    obtain ⟨d, tail, rfl, hd, hd', h⟩ := check_inside h
    refine start_of_encodeChar (encodeChar_four hx ?_ ?_ ?_ hc hc' hd hd' ?_ ?_) h <;> grind

/-- A character is accepted. -/
theorem check_encodeChar (c : Char) (rest : List UInt8) :
    check .boundary (String.utf8EncodeChar c ++ rest) = check .boundary rest := by
  have hvalid : c.val.toNat.isValidChar := c.valid
  unfold Nat.isValidChar at hvalid
  unfold String.utf8EncodeChar
  simp only
  generalize c.val.toNat = v at hvalid
  have hoctet {n : Nat} (h : n < 256) : (UInt8.ofNat n).toNat = n := UInt8.toNat_ofNat_of_lt' h
  split
  · exact check_one (by rw [hoctet (by omega)]; omega) rest
  split
  · simp only [List.cons_append, List.nil_append]
    rw [check_two (hoctet (by omega)) (by omega) (by omega), check_inside_cons,
      hoctet (by omega), if_neg (by omega)]
    rfl
  split
  · simp only [List.cons_append, List.nil_append]
    rw [check_three (hoctet (by omega)) (by omega), check_inside_cons, hoctet (by omega),
      if_neg (by split <;> split <;> omega), after, check_inside_cons, hoctet (by omega),
      if_neg (by omega)]
    rfl
  · simp only [List.cons_append, List.nil_append]
    rw [check_four (hoctet (by omega)) (by omega), check_inside_cons, hoctet (by omega),
      if_neg (by split <;> split <;> omega), after, check_inside_cons, hoctet (by omega),
      if_neg (by omega), after, check_inside_cons, hoctet (by omega), if_neg (by omega)]
    rfl

/-- The octets that are accepted are those of a text. -/
theorem check_iff (bytes : List UInt8) :
    check .boundary bytes = some .boundary ↔ ∃ text, bytes = encode text := by
  constructor
  · intro h
    -- one character is split off at a time
    induction hn : bytes.length using Nat.strongRecOn generalizing bytes with
    | _ n ih =>
      subst hn
      cases bytes with
      | nil => exact ⟨[], rfl⟩
      | cons a rest =>
        obtain ⟨c, tail, heq, htail⟩ := check_start h
        have hless : tail.length < (a :: rest).length := by
          have := List.length_pos_iff.mpr (String.utf8EncodeChar_ne_nil (c := c))
          rw [heq, List.length_append]
          omega
        obtain ⟨text, rfl⟩ := ih tail.length hless tail htail rfl
        exact ⟨c :: text, heq⟩
  · rintro ⟨text, rfl⟩
    induction text with
    | nil => rfl
    | cons c text ih =>
      rw [encode, List.flatMap_cons, check_encodeChar]
      exact ih

end Utf8

end Carrier
