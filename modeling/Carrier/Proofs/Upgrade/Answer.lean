import Carrier.Upgrade.Answer

/-!
# Answers that have not come as a whole

An answer is read again whenever more of it has come. What has been read once is read the same way
from then on: octets that follow can finish a reading, but neither change nor mend it.

- `Scanned.before`: a reading with more octets behind it.
- `Scanned.Steady`: readers that keep to what they have read.
- `UpgradeAnswer.steady_read`: the reader of answers is one of them.
-/

namespace Carrier

namespace Scanned

variable {α β : Type}

/-- A reading with more octets behind it. -/
def before (s : Scanned α) (more : Bytes) : Scanned α :=
  match s with
  | .unfinished => .unfinished
  | .refused fault => .refused fault
  | .found value rest => .found value (rest ++ more)

/-- A reader keeps to what it has read when more octets come. -/
def Steady (read : Bytes → Scanned α) : Prop :=
  ∀ bytes more, read bytes = .unfinished ∨ read (bytes ++ more) = (read bytes).before more

theorem steady_found (value : α) : Steady (.found value) := fun _ _ => .inr rfl

theorem Steady.andThen {read : Bytes → Scanned α} {next : α → Bytes → Scanned β}
    (h : Steady read) (hnext : ∀ value, Steady (next value)) :
    Steady fun bytes => (read bytes).andThen next := by
  intro bytes more
  dsimp only
  rcases h bytes more with hopen | hread
  · left
    rw [hopen]
    rfl
  · rw [hread]
    cases read bytes with
    | unfinished => exact .inl rfl
    | refused fault => exact .inr rfl
    | found value rest => exact hnext value rest more

variable {read : Bytes → Scanned α} {bytes : Bytes}

/-- What can still be finished could be finished before. -/
theorem Steady.unfinished (h : Steady read) {more : Bytes}
    (hmore : read (bytes ++ more) = .unfinished) : read bytes = .unfinished := by
  rcases h bytes more with hopen | hread
  · exact hopen
  · rw [hmore] at hread
    cases hbytes : read bytes with
    | unfinished => rfl
    | refused fault =>
      rw [hbytes] at hread
      cases hread
    | found value rest =>
      rw [hbytes] at hread
      cases hread

theorem Steady.refused (h : Steady read) {fault : AnswerFault} (hread : read bytes = .refused fault)
    (more : Bytes) : read (bytes ++ more) = .refused fault := by
  rcases h bytes more with hopen | hmore
  · rw [hread] at hopen
    cases hopen
  · rw [hmore, hread]
    rfl

theorem Steady.found (h : Steady read) {value : α} {rest : Bytes}
    (hread : read bytes = .found value rest) (more : Bytes) :
    read (bytes ++ more) = .found value (rest ++ more) := by
  rcases h bytes more with hopen | hmore
  · rw [hread] at hopen
    cases hopen
  · rw [hmore, hread]
    rfl

end Scanned

namespace UpgradeAnswer

open Scanned

theorem steady_lineFeed (fault : AnswerFault) : Steady (lineFeed fault) := by
  intro bytes more
  cases bytes with
  | nil => exact .inl rfl
  | cons b rest =>
    right
    simp only [List.cons_append, lineFeed]
    split <;> rfl

theorem steady_skipEmptyLines : Steady skipEmptyLines := by
  intro bytes more
  fun_induction skipEmptyLines bytes with
  | case1 => exact .inl rfl
  | case2 b hend => exact .inl rfl
  | case3 b hend =>
    -- the octet is none of a line end, whatever follows it
    right
    simp only [Bool.or_eq_true, not_or] at hend
    cases more with
    | nil => simp [skipEmptyLines, hend, before]
    | cons c more => simp [skipEmptyLines, hend, before]
  | case4 b c rest hlf ih => simpa [skipEmptyLines, hlf] using ih
  | case5 b c rest hlf hcr hnext ih => simpa [skipEmptyLines, hlf, hcr, hnext] using ih
  | case6 b c rest hlf hcr hnext => exact .inr (by simp [skipEmptyLines, hlf, hcr, hnext, before])
  | case7 b c rest hlf hcr => exact .inr (by simp [skipEmptyLines, hlf, hcr, before])

theorem steady_readDigits (acc left : Nat) : Steady (readDigits acc left) := by
  intro bytes more
  induction left generalizing acc bytes with
  | zero => exact .inr rfl
  | succ left ih =>
    cases bytes with
    | nil => exact .inl rfl
    | cons b rest =>
      simp only [List.cons_append, readDigits]
      cases Text.digitValue? (Char.ofNat b.toNat) with
      | some d => exact ih (acc * 10 + d) rest
      | none => exact .inr rfl

theorem steady_skipReason : Steady skipReason := by
  intro bytes more
  induction bytes with
  | nil => exact .inl rfl
  | cons b rest ih =>
    simp only [List.cons_append, skipReason]
    split
    · exact steady_lineFeed .status rest more
    · split
      · exact .inr rfl
      · split
        · exact ih
        · exact .inr rfl

theorem steady_skipStatusRest : Steady skipStatusRest := by
  intro bytes more
  cases bytes with
  | nil => exact .inl rfl
  | cons b rest =>
    simp only [List.cons_append, skipStatusRest]
    split
    · exact steady_skipReason rest more
    · split
      · exact steady_lineFeed .status rest more
      · split <;> exact .inr rfl

theorem steady_readName (name : Bytes) : Steady (readName name) := by
  intro bytes more
  induction bytes generalizing name with
  | nil => exact .inl rfl
  | cons b rest ih =>
    simp only [List.cons_append, readName]
    split
    · exact ih (b :: name)
    · split <;> exact .inr rfl

theorem steady_readValue (value : Bytes) : Steady (readValue value) := by
  intro bytes more
  induction bytes generalizing value with
  | nil => exact .inl rfl
  | cons b rest ih =>
    simp only [List.cons_append, readValue]
    split
    · exact (steady_lineFeed .headerValue).andThen (fun _ => steady_found _) rest more
    · split
      · exact .inr rfl
      · split
        · exact ih (b :: value)
        · exact .inr rfl

theorem steady_readHeaders (left : Nat) (headers : List (String × Bytes)) :
    Steady (readHeaders left headers) := by
  -- the name, the value and the end of a line go on with what they went on with before
  have hline {left : Nat} {headers : List (String × Bytes)} {next : String → Bytes → Bytes → _}
      (hnext : ∀ name value, Steady (next name value))
      (hcons : ∀ b rest, readHeaders left headers (b :: rest) =
        if b == cr then (lineFeed .lineEnd rest).andThen fun _ rest => .found headers.reverse rest
        else if b == lf then .found headers.reverse rest
        else if !inName b then .refused .headerName
        else (readName [] (b :: rest)).andThen fun name rest =>
          (readValue [] rest).andThen fun value rest => next name value rest) :
      Steady (readHeaders left headers) := by
    intro bytes more
    cases bytes with
    | nil => exact .inl (by cases left <;> rfl)
    | cons b rest =>
      rw [List.cons_append, hcons, hcons]
      split
      · exact (steady_lineFeed .lineEnd).andThen (fun _ => steady_found _) rest more
      · split
        · exact .inr rfl
        · split
          · exact .inr rfl
          · exact (steady_readName []).andThen (fun name =>
              (steady_readValue []).andThen fun value => hnext name value) (b :: rest) more
  induction left generalizing headers with
  | zero => exact hline (fun _ _ => fun _ _ => .inr rfl) fun _ _ => rfl
  | succ left ih => exact hline (fun name value => ih ((name, value) :: headers)) fun _ _ => rfl

/-- What is no beginning of a version does not become one. -/
theorem take_ne_version {bytes : Bytes} (hlength : bytes.length < 8)
    (hname : ¬ bytes <+: ascii "HTTP/1.") (more : Bytes) (digit : UInt8) :
    (bytes ++ more).take 8 ≠ ascii "HTTP/1." ++ [digit] := by
  intro htake
  have hbytes : bytes <+: (bytes ++ more).take 8 := by
    rw [List.take_append, List.take_of_length_le (by omega)]
    exact List.prefix_append bytes _
  rw [htake] at hbytes
  have hshort : bytes.length ≤ (ascii "HTTP/1.").length := Nat.le_of_lt_succ hlength
  exact hname (List.prefix_of_prefix_length_le hbytes (List.prefix_append _ _) hshort)

theorem readVersion_short {bytes : Bytes} (hlength : bytes.length < 8) :
    readVersion bytes =
      if bytes.isPrefixOf (ascii "HTTP/1.") then .unfinished else .refused .version := by
  have htake : bytes.take 8 = bytes := List.take_of_length_le (by omega)
  unfold readVersion
  dsimp only
  rw [htake, if_pos hlength]

/-- The space after a version. -/
def readSpace (old : Bool) : Bytes → Scanned Bool
  | [] => .unfinished
  | b :: rest => if b == 32 then .found old rest else .refused .version

theorem steady_readSpace (old : Bool) : Steady (readSpace old) := by
  intro bytes more
  cases bytes with
  | nil => exact .inl rfl
  | cons b rest =>
    right
    simp only [List.cons_append, readSpace]
    split <;> rfl

theorem readVersion_whole {bytes : Bytes} (hlength : 8 ≤ bytes.length) :
    readVersion bytes =
      if bytes.take 8 = ascii "HTTP/1.1" then readSpace false (bytes.drop 8)
      else if bytes.take 8 = ascii "HTTP/1.0" then readSpace true (bytes.drop 8)
      else .refused .version := by
  have hname : ¬ (bytes.take 8).length < 8 := by
    rw [List.length_take]
    omega
  unfold readVersion
  dsimp only
  rw [if_neg hname]
  cases bytes.drop 8 <;> rfl

theorem steady_readVersion : Steady readVersion := by
  intro bytes more
  by_cases hlength : bytes.length < 8
  · rw [readVersion_short hlength]
    by_cases hname : bytes.isPrefixOf (ascii "HTTP/1.") = true
    · exact .inl (if_pos hname)
    · right
      rw [if_neg hname]
      by_cases hmore : (bytes ++ more).length < 8
      · rw [readVersion_short hmore, if_neg]
        · rfl
        · intro hprefix
          refine hname (List.isPrefixOf_iff_prefix.mpr ?_)
          exact (List.prefix_append bytes more).trans (List.isPrefixOf_iff_prefix.mp hprefix)
      · have hnone := take_ne_version hlength (mt List.isPrefixOf_iff_prefix.mpr hname) more
        have hnew : (bytes ++ more).take 8 ≠ ascii "HTTP/1.1" := hnone 0x31
        have hold : (bytes ++ more).take 8 ≠ ascii "HTTP/1.0" := hnone 0x30
        rw [readVersion_whole (by omega), if_neg hnew, if_neg hold]
        rfl
  · -- the name is there, so that only the space after it may be missing
    have htake : (bytes ++ more).take 8 = bytes.take 8 := List.take_append_of_le_length (by omega)
    have hdrop : (bytes ++ more).drop 8 = bytes.drop 8 ++ more :=
      List.drop_append_of_le_length (by omega)
    have hmore : 8 ≤ (bytes ++ more).length := by
      rw [List.length_append]
      omega
    rw [readVersion_whole (by omega), readVersion_whole hmore, htake, hdrop]
    split
    · exact steady_readSpace false (bytes.drop 8) more
    · split
      · exact steady_readSpace true (bytes.drop 8) more
      · exact .inr rfl

/-- Of an answer, what has been read is not read anew. -/
theorem steady_read : Steady read := by
  refine steady_skipEmptyLines.andThen fun _ => steady_readVersion.andThen fun old => ?_
  refine (steady_readDigits 0 3).andThen fun status => steady_skipStatusRest.andThen fun _ => ?_
  exact (steady_readHeaders mostHeaders []).andThen fun headers => steady_found _

end UpgradeAnswer

end Carrier
