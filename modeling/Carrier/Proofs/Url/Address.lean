import Carrier.Proofs.Text.Numeral
import Carrier.Url.Ipv4
import Carrier.Url.Ipv6

/-!
# Addresses as text

An address is written in several ways, and each of them is read as the address that was written.

- `Ipv4.parse?_shown`: four decimal numbers.
- `Ipv6.Fits`: addresses whose groups have 16 bits; `Ipv6.fits_of_parse?`: so has each that is read.
- `Ipv6.parse?_shown`, `Ipv6.parse?_shownMapped`: groups with a run of zeros left out, and groups
  that end in decimal numbers.
-/

namespace Carrier

/-! ### Four decimal numbers -/

namespace Ipv4

theorem octet_lt {a : Ipv4} : ∀ n ∈ a.octets, n < 256 := by
  have hvalue := a.bounded
  intro n hn
  simp only [octets, List.mem_cons, List.not_mem_nil, or_false] at hn
  omega

theorem readPart?_toDigits {n : Nat} (h : n < 256) : readPart? (Nat.toDigits 10 n) = some n := by
  have hall : ∀ n < 256, readPart? (Nat.toDigits 10 n) = some n := by decide +kernel
  exact hall n h

theorem toList_shown (a : Ipv4) : a.shown.toList = Text.numerals 10 '.' a.octets :=
  Text.toList_intercalate_toString '.' a.octets

/-- Decimal numbers with points between them are its parts. -/
theorem parts_shown (a : Ipv4) : parts a.shown.toList = a.octets.map (Nat.toDigits 10) := by
  have hfields : Text.fields '.' a.shown.toList = a.octets.map (Nat.toDigits 10) := by
    rw [toList_shown]
    exact Text.fields_numerals (by decide) (by decide) (by decide) (by simp [octets])
  have hlast : (a.octets.map (Nat.toDigits 10)).getLast? ≠ some [] := by
    simp [octets, Nat.toDigits_ne_nil]
  unfold parts
  rw [hfields]
  exact if_neg hlast

/-- Four decimal numbers are read as the address. -/
theorem parse?_shown (a : Ipv4) : parse? a.shown.toList = some a := by
  have hread : (a.octets.map (Nat.toDigits 10)).mapM readPart? = some a.octets :=
    Text.mapM_map fun n hn => readPart?_toDigits (octet_lt n hn)
  have hend : a.octets.getLast? = some (a.value % 256) := rfl
  have hsum : leading a.octets.dropLast + a.value % 256 = a.value := by
    simp only [octets, List.dropLast, leading]
    omega
  have hfront : a.octets.dropLast.all (· < 256) = true := by
    rw [List.all_eq_true]
    intro n hn
    exact decide_eq_true (octet_lt n (List.dropLast_subset _ hn))
  have hlast : a.value % 256 < Nat.pow 256 (4 - a.octets.dropLast.length) := by
    show a.value % 256 < 256
    omega
  unfold parse?
  rw [parts_shown]
  dsimp only
  rw [if_neg (by simp [octets]), hread]
  dsimp only
  rw [hend]
  dsimp only
  rw [if_pos ⟨hlast, hfront⟩]
  simp only [hsum]
  exact dif_pos a.bounded

end Ipv4

/-! ### Groups -/

namespace Ipv6

/-- Each group has 16 bits. -/
def Fits (a : Ipv6) : Prop := ∀ g ∈ a.groups, g < 65536

theorem readGroup?_lt {s : List Char} {n : Nat} (h : readGroup? s = some n) : n < 65536 := by
  unfold readGroup? at h
  split at h
  · cases h
  · rename_i hlength
    have hfew : s.length ≤ 4 := by
      rw [not_or, Nat.not_lt] at hlength
      exact hlength.2
    have hpower : 16 ^ s.length ≤ 16 ^ 4 := Nat.pow_le_pow_right (by decide) hfew
    have hlt := Text.readDigits?_lt h
    omega

theorem readOctet?_lt {s : List Char} {n : Nat} (h : readOctet? s = some n) : n < 256 := by
  unfold readOctet? at h
  split at h
  · cases h
  · split at h
    · split at h
      · cases h
        assumption
      · cases h
    · cases h

theorem readQuad?_lt {s : List Char} {ns : List Nat} (h : readQuad? s = some ns) :
    ∀ n ∈ ns, n < 65536 := by
  unfold readQuad? at h
  split at h
  · rename_i a b c d hread
    have hlt {n : Nat} (hn : n ∈ [a, b, c, d]) : n < 256 := by
      obtain ⟨piece, -, hpiece⟩ := Text.exists_of_mem_mapM hread hn
      exact readOctet?_lt hpiece
    have ha := hlt (n := a) (by simp)
    have hb := hlt (n := b) (by simp)
    have hc := hlt (n := c) (by simp)
    have hd := hlt (n := d) (by simp)
    cases h
    intro n hn
    simp only [List.mem_cons, List.not_mem_nil, or_false] at hn
    omega
  · cases h

theorem readGroups?_lt :
    ∀ {pieces : List (List Char)} {ns : List Nat}, readGroups? pieces = some ns →
      ∀ n ∈ ns, n < 65536
  | [], _, h => by
    cases h
    exact nofun
  | [last], _, h => by
    rw [readGroups?] at h
    split at h
    · exact readQuad?_lt h
    · obtain ⟨n, hn, rfl⟩ := Option.map_eq_some_iff.mp h
      intro m hm
      rw [List.mem_singleton.mp hm]
      exact readGroup?_lt hn
  | s :: next :: rest, _, h => by
    rw [readGroups?] at h
    · split at h
      · rename_i n more hn hmore
        cases h
        intro m hm
        rcases List.mem_cons.mp hm with rfl | hm
        · exact readGroup?_lt hn
        · exact readGroups?_lt hmore m hm
      · cases h
    · nofun

theorem readPart?_lt {s : List Char} {ns : List Nat} (h : readPart? s = some ns) :
    ∀ n ∈ ns, n < 65536 := by
  unfold readPart? at h
  split at h
  · cases h
    exact nofun
  · exact readGroups?_lt h

/-- The groups of an address that is read have 16 bits. -/
theorem fits_of_parse? {s : List Char} {a : Ipv6} (h : parse? s = some a) : a.Fits := by
  unfold parse? at h
  split at h
  · split at h
    · rename_i ns hread
      split at h
      · cases h
        exact readPart?_lt hread
      · cases h
    · cases h
  · split at h
    · cases h
    · split at h
      · rename_i ns ms hfront hback
        split at h
        · dsimp only at h
          split at h
          · cases h
            intro g hg
            -- in front of the zeros, one of them, or behind them
            rcases List.mem_append.mp hg with hg | hg
            · rcases List.mem_append.mp hg with hg | hg
              · exact readPart?_lt hfront g hg
              · rw [(List.mem_replicate.mp hg).2]
                decide
            · exact readPart?_lt hback g hg
          · cases h
        · cases h
      · cases h

/-! ### Groups with colons between them -/

theorem toList_joined (gs : List Nat) : (joined gs).toList = Text.numerals 16 ':' gs := by
  have hcolon : ":".toList = [':'] := rfl
  rw [joined, String.toList_intercalate, hcolon, List.map_map]
  exact congrArg _ (List.map_congr_left fun g _ => String.toList_ofList)

theorem readGroup?_toDigits {g : Nat} (h : g < 65536) :
    readGroup? (Nat.toDigits 16 g) = some g := by
  have hfew : (Nat.toDigits 16 g).length ≤ 4 :=
    (Nat.length_toDigits_le_iff (by decide) (by decide)).mpr h
  have hsome : (Nat.toDigits 16 g).isEmpty = false := by simp [Nat.toDigits_ne_nil]
  rw [readGroup?, if_neg (by simp [hsome, hfew])]
  exact Text.readDigits?_toDigits (by decide) (by decide) g

theorem readGroups?_toDigits :
    ∀ {gs : List Nat}, (∀ g ∈ gs, g < 65536) →
      readGroups? (gs.map (Nat.toDigits 16)) = some gs
  | [], _ => rfl
  | [g], h => by
    have hpoint : (Nat.toDigits 16 g).contains '.' = false := by
      simpa using Text.not_mem_toDigits (by decide) (by decide) (by decide) g
    rw [List.map_singleton, readGroups?, hpoint, if_neg Bool.false_ne_true,
      readGroup?_toDigits (h g List.mem_cons_self)]
    rfl
  | g :: next :: rest, h => by
    have hrest := readGroups?_toDigits fun n hn => h n (List.mem_cons_of_mem g hn)
    rw [List.map_cons, List.map_cons, readGroups? , readGroup?_toDigits (h g List.mem_cons_self)]
    · rw [List.map_cons] at hrest
      rw [hrest]
    · nofun

/-- Groups with colons between them are read as they are. -/
theorem readPart?_joined {gs : List Nat} (h : ∀ g ∈ gs, g < 65536) :
    readPart? (joined gs).toList = some gs := by
  rw [toList_joined]
  cases gs with
  | nil => rfl
  | cons g rest =>
    have hsome : (Text.numerals 16 ':' (g :: rest)).isEmpty = false := by
      cases rest <;> simp [Text.numerals, List.intercalate_cons_cons, Nat.toDigits_ne_nil]
    rw [readPart?, hsome, if_neg Bool.false_ne_true,
      Text.fields_numerals (by decide) (by decide) (by decide) (List.cons_ne_nil g rest)]
    exact readGroups?_toDigits h

/-- A colon is passed over that another character follows. -/
theorem cut?_colon {c : Char} (hc : c ≠ ':') (s : List Char) :
    Text.cut? [':', ':'] (':' :: c :: s) =
      (Text.cut? [':', ':'] (c :: s)).map fun (before, after) => (':' :: before, after) := by
  have hother : [':', ':'].isPrefixOf (':' :: c :: s) = false := by
    simp [List.isPrefixOf, Ne.symm hc]
  rw [Text.cut?, hother, if_neg Bool.false_ne_true]

/-- No two colons follow each other in them, nor at their end. -/
theorem cut?_joined (gs : List Nat) (rest : List Char) :
    Text.cut? "::".toList ((joined gs).toList ++ rest) =
      (Text.cut? "::".toList rest).map fun (before, after) =>
        ((joined gs).toList ++ before, after) := by
  have hpattern : "::".toList = [':', ':'] := rfl
  have hdigits : ∀ g, ':' ∉ Nat.toDigits 16 g :=
    Text.not_mem_toDigits (by decide) (by decide) (by decide)
  rw [toList_joined, hpattern, Text.numerals]
  induction gs with
  | nil => simp [List.intercalate]
  | cons g gs ih =>
    cases gs with
    | nil =>
      simp only [List.map_singleton, List.intercalate_singleton]
      exact Text.cut?_append (hdigits g) _ _
    | cons next gs =>
      obtain ⟨c, s, hs⟩ : ∃ c s, Nat.toDigits 16 next = c :: s :=
        List.exists_cons_of_ne_nil Nat.toDigits_ne_nil
      have hc : c ≠ ':' := fun hcolon => hdigits next (by simp [hs, hcolon])
      obtain ⟨t, ht⟩ : ∃ t, [':'].intercalate ((next :: gs).map (Nat.toDigits 16)) = c :: t := by
        cases gs with
        | nil => exact ⟨s, by simp [hs]⟩
        | cons more gs => exact ⟨_, by rw [List.map_cons, hs]; rfl⟩
      rw [ht, List.cons_append] at ih
      rw [List.map_cons, List.map_cons, List.intercalate_cons_cons, ← List.map_cons, ht]
      simp only [List.append_assoc, List.cons_append, List.nil_append]
      rw [Text.cut?_append (hdigits g), cut?_colon hc, ih]
      simp only [Option.map_map]
      rfl

/-! ### Runs of zeros -/

theorem zeros_append_drop (gs : List Nat) :
    List.replicate (zeros gs) 0 ++ gs.drop (zeros gs) = gs := by
  induction gs with
  | nil => rfl
  | cons g gs ih =>
    cases g with
    | zero =>
      have hcount : zeros (0 :: gs) = zeros gs + 1 := by simp [zeros]
      rw [hcount, List.replicate_succ, List.drop_succ_cons, List.cons_append, ih]
    | succ g =>
      have hcount : zeros ((g + 1) :: gs) = 0 := by simp [zeros]
      rw [hcount]
      rfl

/-- `IsRun gs i n`: so many zeros, two at least, stand at a place of the groups. -/
structure IsRun (gs : List Nat) (i n : Nat) : Prop where
  /-- They are all the zeros from there on. -/
  count : zeros (gs.drop i) = n
  /-- There are two of them. -/
  two : 2 ≤ n

theorem isRun_of_longestRun {gs : List Nat} {i n : Nat} (h : longestRun gs = some (i, n)) :
    IsRun gs i n := by
  -- whatever places have been looked at, the best of them has a run
  have hbest : ∀ j m, longestRun gs = some (j, m) → IsRun gs j m := by
    unfold longestRun
    refine List.foldlRecOn (motive := fun best => ∀ j m, best = some (j, m) → IsRun gs j m) _ _
      nofun ?_
    intro best hgood i _ j m hnext
    dsimp only at hnext
    split at hnext
    · rename_i k
      split at hnext
      · rename_i hlonger
        cases hnext
        exact ⟨rfl, Nat.le_of_lt (Nat.lt_of_le_of_lt (hgood _ k rfl).two hlonger)⟩
      · exact hgood j m hnext
    · split at hnext
      · rename_i htwo
        cases hnext
        exact ⟨rfl, htwo⟩
      · cases hnext
  exact hbest i n h

/-- The groups are those in front of the run, its zeros, and those behind it. -/
theorem IsRun.groups_eq {gs : List Nat} {i n : Nat} (h : IsRun gs i n) :
    gs = gs.take i ++ List.replicate n 0 ++ gs.drop (i + n) := by
  have hrun := zeros_append_drop (gs.drop i)
  rw [h.count, List.drop_drop] at hrun
  rw [List.append_assoc, hrun, List.take_append_drop]

/-! ### Whole addresses -/

/-- An address is read with its zeros where a run of them is left out. -/
theorem parse?_run {a : Ipv6} {front back : List Nat} {n : Nat} {text : List Char}
    (ha : a.groups = front ++ List.replicate n 0 ++ back) (hn : 0 < n)
    (hfront : ∀ g ∈ front, g < 65536) (hback : readPart? text = some back) :
    parse? ((joined front).toList ++ ':' :: ':' :: text) = some a := by
  have hcut : Text.cut? "::".toList ((joined front).toList ++ ':' :: ':' :: text)
      = some ((joined front).toList, text) := by
    have hstart : Text.cut? "::".toList (':' :: ':' :: text) = some ([], text) := rfl
    rw [cut?_joined, hstart, Option.map_some]
    dsimp only
    rw [List.append_nil]
  have hpoint : (joined front).toList.contains '.' = false := by
    rw [toList_joined]
    simpa using Text.not_mem_numerals (by decide) (by decide) (by decide) (by decide) front
  have hlength : front.length + n + back.length = 8 := by
    have height := a.eight
    rw [ha] at height
    simpa [Nat.add_assoc] using height
  have hzeros : 8 - front.length - back.length = n := by omega
  unfold parse?
  rw [hcut]
  dsimp only
  rw [hpoint, if_neg Bool.false_ne_true, readPart?_joined hfront, hback]
  dsimp only
  rw [if_pos (by omega)]
  simp only [hzeros, ← ha]
  exact dif_pos a.eight

/-- What is written is read as the address. -/
theorem parse?_shown {a : Ipv6} (h : a.Fits) : parse? a.shown.toList = some a := by
  unfold shown
  split
  · have hcut : Text.cut? "::".toList (joined a.groups).toList = none := by
      have hwhole := cut?_joined a.groups []
      rw [List.append_nil] at hwhole
      rw [hwhole]
      rfl
    unfold parse?
    rw [hcut]
    dsimp only
    rw [readPart?_joined h]
    exact dif_pos a.eight
  · rename_i i n hrun
    have hrun := isRun_of_longestRun hrun
    have htwo := hrun.two
    have hcolons : "::".toList = [':', ':'] := rfl
    rw [String.toList_append, String.toList_append, hcolons, List.append_assoc]
    refine parse?_run hrun.groups_eq (by omega) ?_ (readPart?_joined ?_)
    · exact fun g hg => h g (List.mem_of_mem_take hg)
    · exact fun g hg => h g (List.mem_of_mem_drop hg)

/-! ### Groups that end in decimal numbers -/

theorem readOctet?_toDigits {n : Nat} (h : n < 256) :
    readOctet? (Nat.toDigits 10 n) = some n := by
  have hall : ∀ n < 256, readOctet? (Nat.toDigits 10 n) = some n := by decide +kernel
  exact hall n h

/-- The four octets of two groups. -/
def quad (g h : Nat) : List Nat := [g / 256, g % 256, h / 256, h % 256]

theorem readQuad?_quad {g h : Nat} (hg : g < 65536) (hh : h < 65536) :
    readQuad? (Text.numerals 10 '.' (quad g h)) = some [g, h] := by
  have hread : ((quad g h).map (Nat.toDigits 10)).mapM readOctet? = some (quad g h) := by
    refine Text.mapM_map fun n hn => readOctet?_toDigits ?_
    simp only [quad, List.mem_cons, List.not_mem_nil, or_false] at hn
    omega
  unfold readQuad?
  rw [Text.fields_numerals (by decide) (by decide) (by decide) (by simp [quad]), hread]
  show some [g / 256 * 256 + g % 256, h / 256 * 256 + h % 256] = some [g, h]
  rw [Nat.div_add_mod', Nat.div_add_mod']

/-- Octets behind a group are its last two groups. -/
theorem readPart?_quad {g h : Nat} (hg : g < 65536) (hh : h < 65536) :
    readPart? ("ffff:".toList ++ Text.numerals 10 '.' (quad g h)) = some [0xffff, g, h] := by
  have hread := readQuad?_quad hg hh
  have hcolon : ':' ∉ Text.numerals 10 '.' (quad g h) :=
    Text.not_mem_numerals (by decide) (by decide) (by decide) (by decide) _
  have hpoint : (Text.numerals 10 '.' (quad g h)).contains '.' = true := by
    simp [Text.numerals, quad, List.intercalate_cons_cons]
  generalize Text.numerals 10 '.' (quad g h) = text at *
  have hfields : Text.fields ':' ("ffff:".toList ++ text) = ["ffff".toList, text] := by
    refine Text.fields_eq_iff.mpr ⟨by simp, ?_, by simp [List.intercalate_cons_cons]⟩
    intro piece hpiece
    rcases List.mem_cons.mp hpiece with rfl | hpiece
    · decide
    · rwa [List.mem_singleton.mp hpiece]
  have hgroup : readGroup? "ffff".toList = some 0xffff := by decide
  have hsome : ("ffff:".toList ++ text).isEmpty = false := rfl
  rw [readPart?, hsome, if_neg Bool.false_ne_true, hfields, readGroups?, hgroup, readGroups?,
    if_pos hpoint, hread]
  exact List.cons_ne_nil text []

/-- What is written with the octets of a mapped address is read as the address. -/
theorem parse?_shownMapped {a : Ipv6} (h : a.Fits) : parse? a.shownMapped.toList = some a := by
  unfold shownMapped
  split
  · rename_i g k hgroups
    have hg : g < 65536 := h g (by simp [hgroups])
    have hk : k < 65536 := h k (by simp [hgroups])
    have hchars : ("::ffff:" ++ ".".intercalate ((quad g k).map toString)).toList
        = (joined []).toList ++
          ':' :: ':' :: ("ffff:".toList ++ Text.numerals 10 '.' (quad g k)) := by
      rw [String.toList_append]
      exact congrArg _ (Text.toList_intercalate_toString '.' _)
    have hwhole : a.groups = [] ++ List.replicate 5 0 ++ [0xffff, g, k] := hgroups
    refine (congrArg parse? hchars).trans ?_
    exact parse?_run hwhole (by decide) nofun (readPart?_quad hg hk)
  · exact parse?_shown h

end Ipv6

end Carrier
