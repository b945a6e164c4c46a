import Carrier.Header.Basic
import Carrier.Proofs.Url.Parts
import Carrier.Upgrade.Target

/-!
# Who a URL asks

A request is made of the text of a URL, which is read once more by another grammar. The parts that
this grammar finds are those that the text has been put together from: the scheme and the authority
end where they did. Only a URL without an authority is taken for something else, all of its text being
read as one.

- `Url.asked`: who is asked for a URL.
- `RequestTarget.parse_eq_ok`: where the parts of a target come from.
- `RequestTarget.isHeaderValue_hostText`: who is asked can be said in a header.
- `RequestTarget.cutScheme_authority`, `RequestTarget.cutScheme_apart`: what is read as the scheme.
- `Authority.takeWhile_shown`, `Authority.cutChar?_shown`: what is read as the authority, and as its
  credentials.
- `Url.Formed.hostText_eq`: a target asks who its URL does.
-/

namespace Carrier

/-- Who is asked: host and port, or for a URL without an authority its text, after the first sign
that would end credentials if there is one. -/
def Url.asked (u : Url) : String :=
  match u.authority with
  | some a => a.location
  | none => (Text.cutChar? '@' u.href.toList).elim u.href fun (_, rest) => String.ofList rest

namespace RequestTarget

/-- Where the parts of a target come from. A text without a scheme is an authority alone. -/
theorem parse_eq_ok {text : String} {t : RequestTarget} (h : parse text = .ok t) :
    ∃ s, cutScheme text.toList = .ok (t.scheme, s) ∧
      t.authority = String.ofList (s.takeWhile (!endsAuthority ·)) ∧
      checkAuthority (s.takeWhile (!endsAuthority ·)) = .ok () ∧
      (t.scheme = none → s.takeWhile (!endsAuthority ·) = s) := by
  unfold parse at h
  by_cases hlong : 65534 < text.utf8ByteSize
  · rw [if_pos hlong] at h
    cases h
  · rw [if_neg hlong] at h
    obtain ⟨⟨scheme, s⟩, hcut, h⟩ := Except.bind_eq_ok.mp h
    obtain ⟨⟨⟩, hcheck, h⟩ := Except.bind_eq_ok.mp h
    dsimp only at h
    refine ⟨s, ?_⟩
    split at h
    · split at h
      · rename_i hrest
        cases h
        refine ⟨hcut, rfl, hcheck, fun _ => (List.takeWhile_prefix _).eq_of_length_le ?_⟩
        exact List.drop_eq_nil_iff.mp (List.isEmpty_iff.mp hrest)
      · cases h
    · split at h
      · cases h
      · obtain ⟨⟨path, query⟩, -, h⟩ := Except.bind_eq_ok.mp h
        cases h
        exact ⟨hcut, rfl, hcheck, nofun⟩

/-! ### Characters of an authority -/

/-- A character of an authority can stand in a header. -/
theorem isValueChar_of_inAuthority {c : Char} (h : inAuthority c = true) :
    isValueChar c = true := by
  -- the characters that no header takes are few enough to try each
  have hcontrols : ∀ n < 0x80, n < 0x20 ∨ n = 0x7F → inAuthority (Char.ofNat n) = false := by
    decide +kernel
  by_cases hcontrol : c.toNat < 0x20 ∨ c.toNat = 0x7F
  · have hnone := hcontrols c.toNat (by omega) hcontrol
    rw [Char.ofNat_toNat, h] at hnone
    cases hnone
  · simp only [not_or, Nat.not_lt] at hcontrol
    simp [isValueChar, hcontrol]

theorem Scan.step_eq_ok {s next : Scan} {c : Char} (h : s.step c = .ok next) :
    isValueChar c = true := by
  unfold Scan.step at h
  split at h
  · rename_i hpercent
    rw [hpercent]
    decide
  · split at h
    · cases h
    · rename_i hinside
      exact isValueChar_of_inAuthority (by simpa using hinside)

theorem foldlM_step_eq_ok {cs : List Char} {s next : Scan}
    (h : cs.foldlM Scan.step s = .ok next) : ∀ c ∈ cs, isValueChar c = true := by
  induction cs generalizing s with
  | nil => simp
  | cons c cs ih =>
    rw [List.foldlM_cons] at h
    obtain ⟨between, hstep, hrest⟩ := Except.bind_eq_ok.mp h
    exact List.forall_mem_cons.mpr ⟨Scan.step_eq_ok hstep, ih hrest⟩

/-- Who a target asks can be said in a header. -/
theorem isHeaderValue_hostText {text : String} {t : RequestTarget} (h : parse text = .ok t) :
    isHeaderValue t.hostText = true := by
  obtain ⟨s, -, hauthority, hcheck, -⟩ := parse_eq_ok h
  have hinside : ∀ c ∈ t.authority.toList, isValueChar c = true := by
    rw [hauthority, String.toList_ofList]
    unfold checkAuthority at hcheck
    split at hcheck
    · cases hcheck
    · rename_i hscan
      exact foldlM_step_eq_ok hscan
  refine List.all_eq_true.mpr fun c hc => hinside c ?_
  unfold hostText at hc
  split at hc
  · rename_i rest hcut
    rw [String.toList_ofList] at hc
    rw [Text.cutChar?_eq_some hcut]
    exact List.mem_append_right _ (List.mem_cons_of_mem _ hc)
  · exact hc

/-! ### Schemes -/

section Scheme

variable {scheme : List Char} (hscheme : ∀ c ∈ scheme, inScheme c = true)
include hscheme

/-- The scheme of a URL ends at its colon. -/
theorem takeWhile_scheme (rest : List Char) :
    (scheme ++ ':' :: rest).takeWhile inScheme = scheme := by
  rw [List.takeWhile_append_of_pos hscheme]
  simp [show inScheme ':' = false by decide]

/-- Where an authority follows, the scheme is read, unless it is too long. -/
theorem cutScheme_authority {t : List Char} {found : Option String × List Char}
    (h : cutScheme (scheme ++ ':' :: '/' :: '/' :: t) = .ok found) :
    found = (some (String.ofList scheme), t) := by
  unfold cutScheme at h
  dsimp only at h
  rw [takeWhile_scheme hscheme, List.drop_left] at h
  split at h
  · rename_i rest hrest
    obtain rfl : t = rest := by simpa using hrest
    split at h
    · cases h
    · exact (Except.ok.inj h).symm
  · rename_i hnone
    exact absurd rfl (hnone t)

/-- Where none follows, no scheme is read. -/
theorem cutScheme_apart {rest : List Char} (hrest : ∀ t, rest ≠ '/' :: '/' :: t) :
    cutScheme (scheme ++ ':' :: rest) = .ok (none, scheme ++ ':' :: rest) := by
  unfold cutScheme
  dsimp only
  rw [takeWhile_scheme hscheme, List.drop_left]
  split
  · rename_i t ht
    exact absurd (List.cons.inj ht).2 (hrest t)
  · rfl

end Scheme

theorem endsAuthority_of_divides {c : Char} (h : Url.divides c = false) :
    endsAuthority c = false := by
  simp only [Url.divides, Bool.or_eq_false_iff] at h
  simp [endsAuthority, h]

end RequestTarget

/-! ### Authorities in a text -/

namespace Authority

variable {a : Authority}

/-- Credentials end with a sign that is nowhere else in them. -/
theorem Formed.credentials (h : a.Formed) :
    a.credentials.toList = [] ∨
      ∃ front, a.credentials.toList = front ++ ['@'] ∧ ∀ c ∈ front, Url.divides c = false := by
  have hcolon : ":".toList = [':'] := rfl
  have hsign : "@".toList = ['@'] := rfl
  unfold Authority.credentials
  dsimp only
  split
  · exact .inl rfl
  · refine .inr ⟨_, by rw [String.toList_append, String.toList_append, hsign], ?_⟩
    intro c hc
    rcases List.mem_append.mp hc with hc | hc
    · exact h.username c hc
    · split at hc
      · cases hc
      · rw [String.toList_append, hcolon] at hc
        rcases List.mem_append.mp hc with hc | hc
        · cases List.mem_singleton.mp hc
          decide
        · exact h.password c hc

theorem Formed.location (h : a.Formed) : ∀ c ∈ a.location.toList, Url.divides c = false := by
  have hcolon : ":".toList = [':'] := rfl
  intro c hc
  rw [Authority.location, String.toList_append] at hc
  rcases List.mem_append.mp hc with hc | hc
  · exact h.host c hc
  · cases hport : a.port with
    | none =>
      rw [hport] at hc
      cases hc
    | some port =>
      rw [hport, Option.elim_some, String.toList_append, hcolon] at hc
      rcases List.mem_append.mp hc with hc | hc
      · cases List.mem_singleton.mp hc
        decide
      · exact Url.divides_of_inAddress (Host.inAddress_toString port c hc)

/-- The authority ends where something follows that ends it. -/
theorem Formed.takeWhile_shown (h : a.Formed) {rest : List Char}
    (hrest : ∀ c t, rest = c :: t → RequestTarget.endsAuthority c = true) :
    (a.credentials.toList ++ a.location.toList ++ rest).takeWhile
      (!RequestTarget.endsAuthority ·) = a.credentials.toList ++ a.location.toList := by
  have hinside : ∀ c ∈ a.credentials.toList ++ a.location.toList,
      (!RequestTarget.endsAuthority c) = true := by
    have hfree {c : Char} (hc : Url.divides c = false) :
        (!RequestTarget.endsAuthority c) = true := by
      rw [RequestTarget.endsAuthority_of_divides hc]
      rfl
    intro c hc
    rcases List.mem_append.mp hc with hc | hc
    · rcases h.credentials with hnone | ⟨front, hfront, hdivides⟩
      · rw [hnone] at hc
        cases hc
      · rw [hfront] at hc
        rcases List.mem_append.mp hc with hc | hc
        · exact hfree (hdivides c hc)
        · cases List.mem_singleton.mp hc
          decide
    · exact hfree (h.location c hc)
  rw [List.takeWhile_append_of_pos hinside]
  cases rest with
  | nil => simp
  | cons c t => simp [hrest c t rfl]

/-- What follows the credentials of an authority, or all of one without credentials, is its
location. -/
theorem Formed.cutChar?_shown (h : a.Formed) :
    (Text.cutChar? '@' (a.credentials.toList ++ a.location.toList)).elim
      (a.credentials.toList ++ a.location.toList) Prod.snd = a.location.toList := by
  have hfree {s : List Char} (hs : ∀ c ∈ s, Url.divides c = false) : '@' ∉ s :=
    fun hmem => absurd (hs '@' hmem) (by decide)
  rcases h.credentials with hnone | ⟨front, hfront, hdivides⟩
  · rw [hnone, List.nil_append, Text.cutChar?_eq_none (hfree h.location)]
    rfl
  · have hcut : Text.cutChar? '@' (a.credentials.toList ++ a.location.toList)
        = some (front, a.location.toList) := by
      rw [Text.cutChar?_eq_some_iff, hfront, List.append_assoc, List.singleton_append]
      exact ⟨rfl, hfree hdivides⟩
    rw [hcut]
    rfl

end Authority

/-- Who a target asks is what follows the first sign that would end credentials. -/
theorem RequestTarget.hostText_eq (t : RequestTarget) :
    t.hostText = String.ofList
      ((Text.cutChar? '@' t.authority.toList).elim t.authority.toList Prod.snd) := by
  unfold hostText
  cases Text.cutChar? '@' t.authority.toList with
  | none => exact String.ofList_toList.symm
  | some halves => rfl

namespace Url

/-- What follows an authority ends it. -/
theorem endsAuthority_path {u : Url} {parts : List String} (hpath : u.path = .segments parts)
    (c : Char) (t : List Char) (h : u.path.shown.toList ++ u.tailText.toList = c :: t) :
    RequestTarget.endsAuthority c = true := by
  rw [hpath] at h
  cases parts with
  | nil =>
    have htail : u.tailText.toList = c :: t := h
    rcases tailText_cons htail with rfl | rfl <;> decide
  | cons part rest =>
    rw [shown_segments_cons, List.cons_append] at h
    cases (List.cons.inj h).1
    decide

/-- A target asks who its URL does. -/
theorem Formed.hostText_eq {u : Url} (h : u.Formed) {t : RequestTarget}
    (ht : RequestTarget.parse u.href = .ok t) : t.hostText = u.asked := by
  obtain ⟨s, hcut, hauthority, -, hwhole⟩ := RequestTarget.parse_eq_ok ht
  have hcolon : ":".toList = [':'] := rfl
  have hhref : u.href.toList = u.scheme.toList ++ ':' :: u.afterScheme.toList := by
    rw [href_eq, String.toList_append, String.toList_append, hcolon, List.append_assoc,
      List.singleton_append]
  rw [RequestTarget.hostText_eq, hauthority, String.toList_ofList]
  unfold asked
  cases ha : u.authority with
  | none =>
    -- no scheme is read, and all of the text is an authority
    rw [hhref, RequestTarget.cutScheme_apart h.scheme (h.apart ha), ← hhref] at hcut
    obtain ⟨hnone, rfl⟩ := Prod.mk.inj (Except.ok.inj hcut)
    rw [hwhole hnone.symm]
    cases Text.cutChar? '@' u.href.toList with
    | none => exact String.ofList_toList
    | some halves => rfl
  | some a =>
    obtain ⟨hformed, parts, hpath⟩ := h.authority a ha
    have hafter : u.afterScheme.toList = '/' :: '/' ::
        (a.credentials.toList ++ a.location.toList ++
          (u.path.shown.toList ++ u.tailText.toList)) := by
      have hslashes : "//".toList = ['/', '/'] := rfl
      simp [afterScheme, authorityText, ha, hslashes]
    rw [hhref, hafter] at hcut
    obtain ⟨-, rfl⟩ := Prod.mk.inj (RequestTarget.cutScheme_authority h.scheme hcut)
    rw [hformed.takeWhile_shown (endsAuthority_path hpath), hformed.cutChar?_shown]
    exact String.ofList_toList

end Url

end Carrier
