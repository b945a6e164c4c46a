import Carrier.Proofs.Override.Trust
import Mathlib.Data.List.Induction

/-!
# Overrides one after the other

Each override of a sequence sets the origin. Terms of TLS are only ever replaced by other terms: a
plain override leaves those that the options had, and with them a server that is trusted without
proof.

- `DialOptions.followAll`: the options after a sequence of texts, of which some may be refused.
- `DialOptions.followAll_eq`: origin and terms of TLS come from the last override that brings them.
- `DialOptions.meantTls`: the terms that the last override alone would call for.
- `DialOptions.followAll_tls`: the options have those exactly where no earlier terms are left over.
-/

namespace Carrier

/-- The overrides that a sequence of texts stands for; texts that are refused and empty ones are
none. -/
def Override.accepted (raws : List String) : List Override :=
  raws.filterMap fun raw => (parse raw).toOption

namespace DialOptions

/-- The options after a text; one that is refused changes nothing. -/
def follow (base : DialOptions) (raw : String) : DialOptions :=
  ((base.resolve raw).toOption.map Prod.fst).getD base

/-- The options after a sequence of texts. -/
def followAll (base : DialOptions) (raws : List String) : DialOptions :=
  raws.foldl follow base

/-- The terms of TLS that the last override calls for, or else those that there were. -/
def meantTls (base : DialOptions) (raws : List String) : Option TlsOverride :=
  match (Override.accepted raws).getLast? with
  | some o => o.tls
  | none => base.tls

/-- No terms of TLS are left over when a plain override ends a sequence of texts. -/
def NoneLeft (base : DialOptions) (raws : List String) : Prop :=
  ∀ last, (Override.accepted raws).getLast? = some last → last.tls = none →
    base.tls = none ∧ ∀ o ∈ Override.accepted raws, o.tls = none

/-! ### Origin and terms -/

theorem follow_eq (base : DialOptions) (raw : String) :
    base.follow raw = ((Override.parse raw).toOption.map fun o => (o.apply base).1).getD base := by
  unfold follow resolve
  by_cases hraw : raw = ""
  · subst hraw
    rfl
  · have hempty : raw.isEmpty = false := by simpa using hraw
    rw [hempty]
    cases Override.parse raw <;> rfl

theorem accepted_concat (raws : List String) (raw : String) :
    Override.accepted (raws ++ [raw])
      = Override.accepted raws ++ (Override.parse raw).toOption.toList := by
  unfold Override.accepted
  rw [List.filterMap_append]
  cases hparse : (Override.parse raw).toOption <;> simp [hparse]

/-- Origin and terms of TLS come from the last override that brings them. -/
theorem followAll_eq (base : DialOptions) (raws : List String) :
    base.followAll raws =
      { base with
        origin := ((Override.accepted raws).getLast?.map Override.origin).getD base.origin
        tls := ((Override.accepted raws).filterMap Override.tls).getLast?.or base.tls } := by
  -- the last text decides, unless it is refused or, for the terms, plain
  induction raws using List.reverseRecOn with
  | nil => rfl
  | append_singleton raws raw ih =>
    have hstep : base.followAll (raws ++ [raw]) = (base.followAll raws).follow raw := by
      simp [followAll]
    rw [hstep, follow_eq, accepted_concat]
    cases (Override.parse raw).toOption with
    | none => simpa using ih
    | some o =>
      show (o.apply (base.followAll raws)).1 = _
      rw [Override.apply_eq, ih]
      cases htls : o.tls <;> simp [htls]

/-! ### What a plain override leaves -/

/-- Where no terms are left over the options have those that the last override calls for. -/
theorem followAll_of_noneLeft {base : DialOptions} {raws : List String}
    (h : base.NoneLeft raws) : (base.followAll raws).tls = base.meantTls raws := by
  rw [followAll_eq]
  show ((Override.accepted raws).filterMap Override.tls).getLast?.or base.tls = _
  unfold meantTls
  cases hlast : (Override.accepted raws).getLast? with
  | none =>
    have hnil : Override.accepted raws = [] := List.getLast?_eq_none_iff.mp hlast
    rw [hnil]
    rfl
  | some last =>
    cases htls : last.tls with
    | none =>
      obtain ⟨hbase, hall⟩ := h last hlast htls
      have hnil : (Override.accepted raws).filterMap Override.tls = [] :=
        List.filterMap_eq_nil_iff.mpr hall
      rw [hnil, hbase]
      exact htls.symm
    | some tls =>
      -- terms that come last replace all others
      obtain ⟨front, hfront⟩ := List.getLast?_eq_some_iff.mp hlast
      rw [hfront, List.filterMap_append]
      simp [htls]

/-- Options without terms have had none in any step. -/
theorem tls_eq_none_of_followAll {base : DialOptions} {raws : List String}
    (h : (base.followAll raws).tls = none) :
    base.tls = none ∧ ∀ o ∈ Override.accepted raws, o.tls = none := by
  rw [followAll_eq] at h
  obtain ⟨hlast, hbase⟩ := Option.or_eq_none_iff.mp h
  refine ⟨hbase, ?_⟩
  exact List.filterMap_eq_nil_iff.mp (List.getLast?_eq_none_iff.mp hlast)

/-- After a sequence of texts the options have the terms of TLS of the last override that brings
any, which are those with three fields, or else those that they began with. They have terms exactly
where the last override calls for them unless a plain one follows others that are left over; where
none are, a plain override has the dialed host checked. -/
theorem followAll_tls (base : DialOptions) (raws : List String) :
    (base.followAll raws).tls
        = ((Override.accepted raws).filterMap Override.tls).getLast?.or base.tls ∧
      (∀ raw o, Override.parse raw = .ok o →
        (o.tls.isSome ↔ ∃ name port host, Override.Presents raw name port host)) ∧
      (((base.followAll raws).tls.isSome ↔ (base.meantTls raws).isSome) ↔ base.NoneLeft raws) ∧
      (base.NoneLeft raws → ∀ last, (Override.accepted raws).getLast? = some last →
        last.tls = none → (base.followAll raws).Checked) := by
  refine ⟨?_, fun _ _ => Override.tls_isSome_iff, ⟨?_, ?_⟩, ?_⟩
  · rw [followAll_eq]
  · intro hsame last hlast hplain
    have hmeant : base.meantTls raws = none := by
      unfold meantTls
      rw [hlast]
      exact hplain
    rw [hmeant] at hsame
    refine tls_eq_none_of_followAll ?_
    simpa using hsame
  · intro hnone
    rw [followAll_of_noneLeft hnone]
  · intro hnone last hlast hplain
    refine checked_of_tls_eq_none ?_
    rw [followAll_of_noneLeft hnone, meantTls, hlast]
    exact hplain

/-- Two plain overrides after another, of which the second leaves nothing to trust without proof. -/
theorem followAll_tls_plain :
    (({ origin := "https://ssh.example.com" } : DialOptions).followAll
      ["example.com:443", "example.org"]).Checked := by
  refine (followAll_tls { origin := "https://ssh.example.com" }
    ["example.com:443", "example.org"]).2.2.2 ?_ (.at "example.org") rfl rfl
  intro last _ _
  exact ⟨rfl, by decide +kernel⟩

/-- A plain override after one that presents a name: the name is still presented, and any
certificate is accepted. -/
theorem followAll_tls_stale :
    let base : DialOptions := { origin := "https://ssh.example.com" }
    let raws := ["spoofed.example:443:10.0.0.5", "example.com:443"]
    Override.accepted raws = [.presenting "spoofed.example" "443" "10.0.0.5" (by decide),
        .atPort "example.com" "443"] ∧
      (base.followAll raws).tls = some ⟨"spoofed.example", true⟩ ∧
      ¬ ((base.followAll raws).tls.isSome ↔ (base.meantTls raws).isSome) ∧
      ¬ (base.followAll raws).Checked := by
  refine ⟨by rfl, by rfl, by decide +kernel, ?_⟩
  intro h
  exact absurd h.strict (by decide +kernel)

end DialOptions

end Carrier
