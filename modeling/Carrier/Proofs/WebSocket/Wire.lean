import Carrier.WebSocket.Message
import Mathlib.Tactic.Ring

/-!
# Frames as octets

- `WireFrame.read_append`: octets that come later do not change a frame that has been read.
- `WireFrame.read_encode`: a frame that is written is read back, whatever follows it.
- `WireFrame.maskWith_maskWith`: masking twice gives the payload back.
- `WireFrame.read_ofFrame`: how the other end reads a frame that is sent under a mask.
-/

namespace Carrier

/-! ### Splitting and numbers -/

namespace Bytes

theorem split?_eq_some {n : Nat} {bytes front rest : Bytes} :
    split? n bytes = some (front, rest) ↔ bytes = front ++ rest ∧ front.length = n := by
  constructor
  · intro h
    obtain ⟨happend, hlen⟩ := split?_append h
    exact ⟨happend.symm, hlen⟩
  · rintro ⟨rfl, rfl⟩
    simp [split?]

/-- A split is not disturbed by more octets. -/
theorem split?_append_right {n : Nat} {bytes front rest : Bytes} (more : Bytes)
    (h : split? n bytes = some (front, rest)) :
    split? n (bytes ++ more) = some (front, rest ++ more) := by
  rw [split?_eq_some] at h ⊢
  rw [h.1, List.append_assoc]
  exact ⟨rfl, h.2⟩

theorem foldl_number (bytes : Bytes) (n : Nat) :
    bytes.foldl (fun n b => n * 256 + b.toNat) n = n * 256 ^ bytes.length + number bytes := by
  unfold number
  induction bytes generalizing n with
  | nil => simp
  | cons b rest ih =>
    rw [List.foldl_cons, ih, List.foldl_cons, ih (0 * 256 + b.toNat), List.length_cons, pow_succ]
    ring

theorem number_cons (b : UInt8) (rest : Bytes) :
    number (b :: rest) = b.toNat * 256 ^ rest.length + number rest := by
  have := foldl_number rest b.toNat
  simpa [number] using this

@[simp] theorem length_bigEndian (width n : Nat) : (bigEndian width n).length = width := by
  induction width with
  | zero => rfl
  | succ width ih => simp [bigEndian, ih]

/-- The number that is written is read back, as far as it fits. -/
theorem number_bigEndian (width n : Nat) : number (bigEndian width n) = n % 256 ^ width := by
  induction width with
  | zero => simp [bigEndian, number, Nat.mod_one]
  | succ width ih =>
    rw [bigEndian, number_cons, ih, length_bigEndian, pow_succ, Nat.mod_mul]
    have hdigit : (UInt8.ofNat (n / Nat.pow 256 width)).toNat = n / 256 ^ width % 256 :=
      UInt8.toNat_ofNat'
    rw [hdigit, Nat.mul_comm, Nat.add_comm]

end Bytes

namespace WireFrame

/-! ### Later octets -/

theorem readPayload_append {limit first length : Nat} {mask : Option Bytes}
    {bytes rest : Bytes} {f : WireFrame} (more : Bytes)
    (h : readPayload limit first mask length bytes = .frame f rest) :
    readPayload limit first mask length (bytes ++ more) = .frame f (rest ++ more) := by
  unfold readPayload at h ⊢
  simp only at h ⊢
  split at h
  · cases h
  · rename_i hcode
    rw [if_neg hcode]
    split at h
    · cases h
    · rename_i hlimit
      rw [if_neg hlimit]
      cases hsplit : Bytes.split? length bytes with
      | none => simp [hsplit] at h
      | some pair =>
        obtain ⟨payload, after⟩ := pair
        simp only [hsplit, Reading.frame.injEq] at h
        rw [Bytes.split?_append_right more hsplit]
        simp [h.1, h.2]

theorem readPayload_refused {limit first length : Nat} {mask : Option Bytes}
    {bytes : Bytes} {fault : SocketFault} (more : Bytes)
    (h : readPayload limit first mask length bytes = .refused fault) :
    readPayload limit first mask length (bytes ++ more) = .refused fault := by
  unfold readPayload at h ⊢
  simp only at h ⊢
  split at h
  · rename_i hcode
    rw [if_pos hcode]
    exact h
  · rename_i hcode
    rw [if_neg hcode]
    split at h
    · rename_i hlimit
      rw [if_pos hlimit]
      exact h
    · split at h <;> cases h

/-- What has been read stays read when more octets come: the payload of a complete header is all
that they can add to. -/
theorem read_more {limit : Nat} {bytes : Bytes} (more : Bytes)
    {P : Reading → Reading → Prop} (hincomplete : ∀ reading, P .incomplete reading)
    (hpayload : ∀ first mask length bytes, P (readPayload limit first mask length bytes)
      (readPayload limit first mask length (bytes ++ more))) :
    P (read limit bytes) (read limit (bytes ++ more)) := by
  match bytes with
  | [] => exact hincomplete _
  | [_] => exact hincomplete _
  | first :: second :: bytes =>
    simp only [read, List.cons_append]
    cases hlength : Bytes.split? (lengthWidth (second.toNat % 128)) bytes with
    | none => exact hincomplete _
    | some pair =>
      obtain ⟨lengthBytes, after⟩ := pair
      rw [Bytes.split?_append_right more hlength]
      simp only
      by_cases hmask : second.toNat < 128
      · rw [if_pos hmask, if_pos hmask]
        exact hpayload _ _ _ _
      · rw [if_neg hmask, if_neg hmask]
        cases hkey : Bytes.split? 4 after with
        | none => exact hincomplete _
        | some pair =>
          obtain ⟨key, rest⟩ := pair
          rw [Bytes.split?_append_right more hkey]
          exact hpayload _ _ _ _

/-- A frame that has been read is not changed by the octets after it. -/
theorem read_append {limit : Nat} {bytes rest : Bytes} {f : WireFrame} (more : Bytes)
    (h : read limit bytes = .frame f rest) :
    read limit (bytes ++ more) = .frame f (rest ++ more) := by
  revert h
  refine read_more (P := fun a b => a = .frame f rest → b = .frame f (rest ++ more)) more ?_ ?_
  · intro reading h
    cases h
  · exact fun _ _ _ _ h => readPayload_append more h

/-- Octets that have been refused stay refused. -/
theorem read_refused_append {limit : Nat} {bytes : Bytes} {fault : SocketFault} (more : Bytes)
    (h : read limit bytes = .refused fault) : read limit (bytes ++ more) = .refused fault := by
  revert h
  refine read_more (P := fun a b => a = .refused fault → b = .refused fault) more ?_ ?_
  · intro reading h
    cases h
  · exact fun _ _ _ _ h => readPayload_refused more h

/-! ### Written and read back -/

/-- A frame that can be written, and that a reader with a limit takes. -/
structure Readable (limit : Nat) (f : WireFrame) : Prop where
  reserved : f.reserved < 8
  code : (Opcode.ofCode? f.code).isSome
  mask : ∀ key, f.mask = some key → key.length = 4
  limit : f.payload.length ≤ limit
  fits : f.payload.length < 2 ^ 64

theorem lengthOctets_format (n : Nat) : (lengthOctets n).1 < 128 := by
  unfold lengthOctets
  split
  · show n < 128
    omega
  · split
    · show 126 < 128
      decide
    · show 127 < 128
      decide

theorem length_lengthOctets (n : Nat) :
    (lengthOctets n).2.length = lengthWidth (lengthOctets n).1 := by
  unfold lengthOctets lengthWidth
  split
  · simp only [List.length_nil]
    rw [if_neg (by omega), if_neg (by omega)]
  · split <;> simp

theorem number_lengthOctets {n : Nat} (h : n < 2 ^ 64) :
    (if lengthWidth (lengthOctets n).1 = 0 then (lengthOctets n).1
      else Bytes.number (lengthOctets n).2) = n := by
  unfold lengthOctets
  split
  · have hwidth : lengthWidth n = 0 := by
      unfold lengthWidth
      rw [if_neg (by omega), if_neg (by omega)]
    exact if_pos hwidth
  · split
    · rename_i hsmall
      show Bytes.number (Bytes.bigEndian 2 n) = n
      rw [Bytes.number_bigEndian]
      exact Nat.mod_eq_of_lt (by omega)
    · show Bytes.number (Bytes.bigEndian 8 n) = n
      rw [Bytes.number_bigEndian]
      exact Nat.mod_eq_of_lt (by omega)

theorem code_lt_of_isSome {code : Nat} (h : (Opcode.ofCode? code).isSome) : code < 16 := by
  by_contra hge
  have hnone : Opcode.ofCode? code = none := by
    unfold Opcode.ofCode?
    split <;> first | omega | rfl
  simp [hnone] at h

/-- The first octet of a frame tells its kind, its reserved bits and whether it is the last. -/
theorem readPayload_encode {limit : Nat} {f : WireFrame} (hf : f.Readable limit)
    (rest : Bytes) :
    readPayload limit ((if f.fin then 128 else 0) + f.reserved % 8 * 16 + f.code % 16) f.mask
      f.payload.length (f.payload ++ rest) = .frame f rest := by
  have hcode := code_lt_of_isSome hf.code
  have hreserved := hf.reserved
  generalize hfirst : (if f.fin then 128 else 0) + f.reserved % 8 * 16 + f.code % 16 = first
  have hlow : first % 16 = f.code := by
    rw [← hfirst]
    split <;> omega
  have hmiddle : first / 16 % 8 = f.reserved := by
    rw [← hfirst]
    split <;> omega
  have hhigh : decide (128 ≤ first) = f.fin := by
    rw [← hfirst]
    cases f.fin <;> simp <;> omega
  have hknown : ¬ (Opcode.ofCode? f.code).isNone := by
    simpa [Option.isNone_iff_eq_none, Option.isSome_iff_ne_none] using hf.code
  have hsplit : Bytes.split? f.payload.length (f.payload ++ rest) = some (f.payload, rest) :=
    Bytes.split?_eq_some.mpr ⟨rfl, rfl⟩
  unfold readPayload
  simp only [hlow]
  rw [if_neg hknown, if_neg (Nat.not_lt.mpr hf.limit), hsplit, hmiddle, hhigh]

/-- A frame that is written is read back, whatever follows it. -/
theorem read_encode {limit : Nat} {f : WireFrame} (hf : f.Readable limit) (rest : Bytes) :
    read limit (f.encode ++ rest) = .frame f rest := by
  have hcode := code_lt_of_isSome hf.code
  have hreserved := hf.reserved
  have hformat := lengthOctets_format f.payload.length
  have hfirst : (UInt8.ofNat ((if f.fin then 128 else 0) + f.reserved % 8 * 16
      + f.code % 16)).toNat = (if f.fin then 128 else 0) + f.reserved % 8 * 16 + f.code % 16 :=
    UInt8.toNat_ofNat_of_lt' (by
      show _ < 256
      split <;> omega)
  have hsecond : (UInt8.ofNat ((if f.mask.isSome then 128 else 0)
      + (lengthOctets f.payload.length).1)).toNat
      = (if f.mask.isSome then 128 else 0) + (lengthOctets f.payload.length).1 :=
    UInt8.toNat_ofNat_of_lt' (by
      show _ < 256
      split <;> omega)
  have hmod : ((if f.mask.isSome then 128 else 0) + (lengthOctets f.payload.length).1) % 128
      = (lengthOctets f.payload.length).1 := by
    split <;> omega
  have hlength (tail : Bytes) :
      Bytes.split? (lengthWidth (lengthOctets f.payload.length).1)
        ((lengthOctets f.payload.length).2 ++ tail)
        = some ((lengthOctets f.payload.length).2, tail) :=
    Bytes.split?_eq_some.mpr ⟨rfl, length_lengthOctets _⟩
  have hbody := readPayload_encode hf rest
  simp only [encode, List.cons_append, List.append_assoc, read, hfirst, hsecond, hmod, hlength,
    number_lengthOctets hf.fits]
  cases hmask : f.mask with
  | none =>
    rw [hmask] at hbody
    rw [if_pos (by simpa using hformat)]
    exact hbody
  | some key =>
    rw [hmask] at hbody
    have hkey : Bytes.split? 4 (key ++ (f.payload ++ rest)) = some (key, f.payload ++ rest) :=
      Bytes.split?_eq_some.mpr ⟨rfl, hf.mask key hmask⟩
    rw [if_neg (by simp)]
    simp only [Option.getD_some, hkey]
    exact hbody

/-! ### Masks -/

@[simp] theorem length_maskWith (key payload : Bytes) :
    (maskWith key payload).length = payload.length := by
  simp [maskWith]

/-- Masking twice gives the payload back. -/
theorem maskWith_maskWith (key payload : Bytes) :
    maskWith key (maskWith key payload) = payload := by
  apply List.ext_getElem (by simp)
  intro i h₁ h₂
  simp only [maskWith, List.getElem_map, List.getElem_zipIdx, Nat.zero_add]
  rw [UInt8.xor_assoc, UInt8.xor_self, UInt8.xor_zero]

/-- The other end reads a frame that is sent as it was sent, under the mask. -/
theorem read_ofFrame {limit : Nat} {key : Bytes} {f : Frame} (hkey : key.length = 4)
    (hlimit : f.payload.length ≤ limit) (hfits : f.payload.length < 2 ^ 64) (rest : Bytes) :
    read limit ((ofFrame key f).encode ++ rest) = .frame (ofFrame key f) rest := by
  refine read_encode ⟨Nat.zero_lt_succ 7, ?_, ?_, ?_, ?_⟩ rest
  · show (Opcode.ofCode? f.opcode.code).isSome
    cases f.opcode <;> rfl
  · intro other h
    cases h
    exact hkey
  · simpa [ofFrame] using hlimit
  · simpa [ofFrame] using hfits

end WireFrame

end Carrier
