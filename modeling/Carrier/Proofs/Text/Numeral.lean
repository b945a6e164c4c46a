import Carrier.Proofs.Text.Fields
import Carrier.Text.Decimal
import Mathlib.Tactic.Ring

/-!
# Numbers as text

A number is written with the digits of a base, and reading them gives the number back.

- `Text.readDigits?_toDigits`, `Text.readNat?_toString`: what is written is read.
- `Text.readDigits?_lt`: a few digits are a small number.
- `Text.numerals`: several numbers with a separator between them; `Text.fields_numerals`: they are
  its pieces.
-/

namespace Carrier

namespace Text

/-- Digits are read from left to right. -/
theorem readDigits?_append (base acc : Nat) (s t : List Char) :
    readDigits? base acc (s ++ t) = (readDigits? base acc s).bind (readDigits? base · t) := by
  induction s generalizing acc with
  | nil => rfl
  | cons c s ih =>
    rw [List.cons_append, readDigits?, readDigits?]
    cases hexValue? c with
    | none => rfl
    | some d =>
      show (if d < base then _ else _) = Option.bind (if d < base then _ else _) _
      by_cases hd : d < base
      · rw [if_pos hd, if_pos hd, ih]
      · rw [if_neg hd, if_neg hd]
        rfl

theorem hexValue?_digitChar {d : Nat} (h : d < 16) : hexValue? d.digitChar = some d := by
  have hall : ∀ e < 16, hexValue? e.digitChar = some e := by decide
  exact hall d h

theorem readDigits?_digitChar {base d : Nat} (hbase : base ≤ 16) (hd : d < base) (acc : Nat) :
    readDigits? base acc [d.digitChar] = some (acc * base + d) := by
  rw [readDigits?, hexValue?_digitChar (by omega)]
  exact if_pos hd

/-- What is written in a base up to sixteen is read. -/
theorem readDigits?_toDigits {base : Nat} (hbase : 1 < base) (hsmall : base ≤ 16) (n : Nat) :
    readDigits? base 0 (Nat.toDigits base n) = some n := by
  -- the last digit comes off the end, and a smaller number is left
  induction n using Nat.strongRecOn with
  | ind n ih =>
    rw [Nat.toDigits_eq_if hbase]
    split
    · rename_i hn
      rw [readDigits?_digitChar hsmall hn, Nat.zero_mul, Nat.zero_add]
    · rename_i hn
      have hless : n / base < n := Nat.div_lt_self (by omega) hbase
      have hlast : n % base < base := Nat.mod_lt n (by omega)
      rw [readDigits?_append, ih _ hless, Option.bind_some, readDigits?_digitChar hsmall hlast,
        Nat.mul_comm, Nat.div_add_mod]

/-- The digits of a number are those of its base. -/
theorem mem_toDigits {base n : Nat} {c : Char} (hbase : 1 < base) (h : c ∈ Nat.toDigits base n) :
    ∃ d < base, c = d.digitChar := by
  induction n using Nat.strongRecOn with
  | ind n ih =>
    rw [Nat.toDigits_eq_if hbase] at h
    split at h
    · rename_i hn
      exact ⟨n, hn, List.mem_singleton.mp h⟩
    · rename_i hn
      rcases List.mem_append.mp h with h | h
      · exact ih _ (Nat.div_lt_self (by omega) hbase) h
      · exact ⟨n % base, Nat.mod_lt n (by omega), List.mem_singleton.mp h⟩

theorem isAlphanum_toDigits {base n : Nat} {c : Char} (hbase : 1 < base) (hsmall : base ≤ 16)
    (h : c ∈ Nat.toDigits base n) : c.isAlphanum = true := by
  have hdigits : ∀ d < 16, d.digitChar.isAlphanum = true := by decide
  obtain ⟨d, hd, rfl⟩ := mem_toDigits hbase h
  exact hdigits d (by omega)

theorem not_mem_toDigits {base : Nat} {c : Char} (hbase : 1 < base) (hsmall : base ≤ 16)
    (hc : c.isAlphanum = false) (n : Nat) : c ∉ Nat.toDigits base n := by
  intro hmem
  rw [isAlphanum_toDigits hbase hsmall hmem] at hc
  cases hc

theorem toList_toString (n : Nat) : (toString n).toList = Nat.toDigits 10 n := Nat.toList_repr

theorem readNat?_toString (n : Nat) : readNat? (toString n).toList = some n := by
  have hne : (Nat.toDigits 10 n).isEmpty = false := by
    simp [Nat.toDigits_ne_nil]
  rw [toList_toString, readNat?, hne, if_neg Bool.false_ne_true]
  exact readDigits?_toDigits (by decide) (by decide) n

/-- So many digits are a number below that power of the base. -/
theorem readDigits?_lt {base acc n : Nat} {s : List Char} (h : readDigits? base acc s = some n) :
    n < (acc + 1) * base ^ s.length := by
  induction s generalizing acc with
  | nil =>
    cases h
    simp
  | cons c s ih =>
    rw [readDigits?] at h
    split at h
    · rename_i d _
      split at h
      · rename_i hd
        have hmore : acc * base + d + 1 ≤ (acc + 1) * base := by
          rw [Nat.add_mul, Nat.one_mul]
          omega
        calc n < (acc * base + d + 1) * base ^ s.length := ih h
          _ ≤ (acc + 1) * base * base ^ s.length := Nat.mul_le_mul_right _ hmore
          _ = (acc + 1) * base ^ (c :: s).length := by
            rw [List.length_cons, pow_succ', Nat.mul_assoc]
      · cases h
    · cases h

/-! ### Several numbers -/

section Numerals

variable {base : Nat} {sep : Char}

/-- Numbers with a separator between them. -/
def numerals (base : Nat) (sep : Char) (ns : List Nat) : List Char :=
  [sep].intercalate (ns.map (Nat.toDigits base))

theorem toList_intercalate_toString (sep : Char) (ns : List Nat) :
    ((String.singleton sep).intercalate (ns.map toString)).toList = numerals 10 sep ns := by
  rw [String.toList_intercalate, String.toList_singleton, List.map_map, numerals]
  exact congrArg _ (List.map_congr_left fun n _ => toList_toString n)

theorem mem_numerals (hbase : 1 < base) (hsmall : base ≤ 16) {ns : List Nat} {c : Char}
    (h : c ∈ numerals base sep ns) : c = sep ∨ c.isAlphanum = true := by
  rcases mem_intercalate h with hsep | ⟨piece, hpiece, hc⟩
  · exact .inl hsep
  · obtain ⟨n, -, rfl⟩ := List.mem_map.mp hpiece
    exact .inr (isAlphanum_toDigits hbase hsmall hc)

theorem not_mem_numerals (hbase : 1 < base) (hsmall : base ≤ 16) {c : Char} (hsep : c ≠ sep)
    (hc : c.isAlphanum = false) (ns : List Nat) : c ∉ numerals base sep ns := by
  intro hmem
  rcases mem_numerals hbase hsmall hmem with hwhich | halphanum
  · exact hsep hwhich
  · rw [halphanum] at hc
    cases hc

/-- The pieces between the separators are the numbers. -/
theorem fields_numerals (hbase : 1 < base) (hsmall : base ≤ 16) (hsep : sep.isAlphanum = false)
    {ns : List Nat} (hne : ns ≠ []) :
    fields sep (numerals base sep ns) = ns.map (Nat.toDigits base) := by
  refine fields_eq_iff.mpr ⟨by simp [hne], ?_, rfl⟩
  intro piece hpiece
  obtain ⟨n, -, rfl⟩ := List.mem_map.mp hpiece
  exact not_mem_toDigits hbase hsmall hsep n

end Numerals

end Text

end Carrier
