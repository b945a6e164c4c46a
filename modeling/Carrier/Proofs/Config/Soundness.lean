import Carrier.Proofs.Config.Validity
import Carrier.Proofs.Override.Trust
import Mathlib.Data.List.Forall2

/-!
# Which configurations are valid

A configuration is valid where it has entries, no URL of theirs is blank, and each of them has an
address of its own. What is reported otherwise is wrong with one entry, and those in front of it are
in order.

- `first_iff`: the first that is refused stands behind some of which none is.
- `Config.Sound`: entries that can be listened for all together, and their addresses.
- `Config.validate_exact`: which configurations are valid, what is wrong with the others, and what
  is left to be done with those that are.
-/

namespace Carrier

/-! ### The first that is refused -/

section First

variable {α ε : Type} {R : List α → α → ε → Prop}

/-- The first that is refused stands behind some of which none is refused. -/
theorem first_iff {before xs : List α} {fault : ε} :
    First R before xs fault ↔
      ∃ front x back, xs = front ++ x :: back ∧ (∀ f, ¬ First R before front f) ∧
        R (before ++ front) x fault := by
  constructor
  · intro h
    induction h with
    | @here before x rest fault refused =>
      exact ⟨[], x, rest, rfl, fun f => First.not_nil, by simpa using refused⟩
    | @later before x rest fault passes first ih =>
      obtain ⟨front, y, back, rfl, hfront, hrefused⟩ := ih
      refine ⟨x :: front, y, back, rfl, fun f => ?_, by simpa using hrefused⟩
      rw [first_cons passes]
      exact hfront f
  · rintro ⟨front, x, back, rfl, hfront, hrefused⟩
    -- one after the other, those in front pass
    induction front generalizing before with
    | nil => exact .here (by simpa using hrefused)
    | cons y front ih =>
      have hpasses : ∀ f, ¬ R before y f := fun f hy => hfront f (.here hy)
      refine .later hpasses (ih (fun f => ?_) (by simpa using hrefused))
      rw [← first_cons hpasses]
      exact hfront f

end First

/-! ### Entries in order -/

namespace Config

open ForwarderEntry

/-- `Sound entries addresses`: entries can be listened for all together, on some addresses. -/
structure Sound (entries : List ForwarderEntry) (addresses : List String) : Prop where
  /-- No URL is blank. -/
  written : ∀ e ∈ entries, Text.isBlankText e.url = false
  /-- Each entry has its address. -/
  located : List.Forall₂ HasAddress entries addresses
  /-- No two addresses are the same. -/
  distinct : addresses.Nodup

theorem sound_nil : Sound [] [] := ⟨nofun, .nil, .nil⟩

theorem Sound.address {entries : List ForwarderEntry} {addresses : List String}
    (h : Sound entries addresses) : ∀ e ∈ entries, ∃ address ∈ addresses, e.HasAddress address := by
  obtain ⟨-, hlocated, -⟩ := h
  induction hlocated with
  | nil => nofun
  | @cons d address entries addresses hhere hrest ih =>
    intro e he
    rcases List.mem_cons.mp he with rfl | he
    · exact ⟨address, List.mem_cons_self, hhere⟩
    · obtain ⟨found, hfound, hsame⟩ := ih e he
      exact ⟨found, List.mem_cons_of_mem address hfound, hsame⟩

theorem sound_cons {e : ForwarderEntry} {rest : List ForwarderEntry} {address : String}
    {addresses : List String} :
    Sound (e :: rest) (address :: addresses) ↔
      Text.isBlankText e.url = false ∧ e.HasAddress address ∧ address ∉ addresses ∧
        Sound rest addresses := by
  constructor
  · rintro ⟨hwritten, hlocated, hdistinct⟩
    obtain ⟨haddress, hlocated⟩ := List.forall₂_cons.mp hlocated
    obtain ⟨hnew, hdistinct⟩ := List.nodup_cons.mp hdistinct
    exact ⟨hwritten e List.mem_cons_self, haddress, hnew,
      fun d hd => hwritten d (List.mem_cons_of_mem e hd), hlocated, hdistinct⟩
  · rintro ⟨hwritten, haddress, hnew, hrest⟩
    refine ⟨fun d hd => ?_, .cons haddress hrest.located,
      List.nodup_cons.mpr ⟨hnew, hrest.distinct⟩⟩
    rcases List.mem_cons.mp hd with rfl | hd
    · exact hwritten
    · exact hrest.written d hd

/-- An entry passes that has a URL, and an address that has not been seen. -/
theorem entry_check_eq_ok {seen : List String} {e : ForwarderEntry} {address : String} :
    e.check seen = .ok address ↔
      Text.isBlankText e.url = false ∧ e.HasAddress address ∧ address ∉ seen := by
  unfold ForwarderEntry.check HasAddress
  cases Text.isBlankText e.url with
  | true => simp
  | false =>
    cases listenerAddress e.listener with
    | error cause => simp
    | ok found =>
      by_cases hseen : found ∈ seen
      · constructor
        · intro h
          simp [hseen] at h
        · rintro ⟨-, ⟨⟩, hnew⟩
          exact absurd hseen hnew
      · constructor
        · intro h
          simp only [hseen, Bool.false_eq_true, if_false] at h
          cases h
          exact ⟨rfl, rfl, hseen⟩
        · rintro ⟨-, ⟨⟩, -⟩
          simp [hseen]

/-- Entries pass that are in order, on addresses that have not been seen. -/
theorem check_eq_ok {seen : List String} {entries : List ForwarderEntry} :
    check seen entries = .ok () ↔
      ∃ addresses, Sound entries addresses ∧ ∀ address ∈ addresses, address ∉ seen := by
  induction entries generalizing seen with
  | nil => exact ⟨fun _ => ⟨[], sound_nil, nofun⟩, fun _ => rfl⟩
  | cons e rest ih =>
    rw [check]
    constructor
    · intro h
      split at h
      · cases h
      · rename_i address hcheck
        obtain ⟨hwritten, haddress, hnew⟩ := entry_check_eq_ok.mp hcheck
        obtain ⟨addresses, hsound, hrest⟩ := ih.mp h
        -- the address of the entry has been seen by those behind it
        have hapart : address ∉ addresses := fun hmem => hrest address hmem List.mem_cons_self
        refine ⟨address :: addresses, sound_cons.mpr ⟨hwritten, haddress, hapart, hsound⟩, ?_⟩
        intro other hother
        rcases List.mem_cons.mp hother with rfl | hother
        · exact hnew
        · exact fun hseen => hrest other hother (List.mem_cons_of_mem _ hseen)
    · rintro ⟨_, hsound, hrest⟩
      obtain ⟨address, addresses, -, -, rfl⟩ := List.forall₂_cons_left_iff.mp hsound.located
      obtain ⟨hwritten, haddress, hapart, hsound⟩ := sound_cons.mp hsound
      have hcheck := entry_check_eq_ok.mpr ⟨hwritten, haddress, hrest address List.mem_cons_self⟩
      rw [hcheck]
      refine ih.mpr ⟨addresses, hsound, fun other hother hseen => ?_⟩
      rcases List.mem_cons.mp hseen with rfl | hseen
      · exact hapart hother
      · exact hrest other (List.mem_cons_of_mem _ hother) hseen

/-- None of some entries is refused where they are in order. -/
theorem sound_iff {entries : List ForwarderEntry} :
    (∀ fault, ¬ First Refused [] entries fault) ↔ ∃ addresses, Sound entries addresses := by
  have hcheck : check [] entries = .ok () ↔ ∃ addresses, Sound entries addresses :=
    check_eq_ok.trans (by simp)
  rw [← hcheck]
  simp only [← check_eq_error Seen.nil]
  cases check [] entries <;> simp

theorem validate_eq_ok {c : Config} :
    c.validate = .ok () ↔ c.forwarders ≠ [] ∧ ∃ addresses, Sound c.forwarders addresses := by
  unfold validate
  cases hentries : c.forwarders with
  | nil => simp
  | cons e rest =>
    show check [] (e :: rest) = .ok () ↔ _
    rw [check_eq_ok]
    simp

end Config

/-! ### The options of an entry -/

theorem Text.isBlankText_eq_false {s : String} {c : Char} (hc : c ∈ s.toList)
    (h : isBlank c = false) : isBlankText s = false := by
  rw [isBlankText, List.all_eq_false]
  exact ⟨c, hc, by simp [h]⟩

/-- A hostname with a scheme is not blank. -/
theorem isBlankText_ensureScheme (hostname : String) :
    Text.isBlankText (ensureScheme hostname) = false := by
  unfold ensureScheme
  split
  · rename_i hscheme
    obtain ⟨⟨before, after⟩, hcut⟩ := Option.isSome_iff_exists.mp hscheme
    refine Text.isBlankText_eq_false (c := ':') ?_ (by decide)
    rw [Text.cut?_eq_some hcut, schemeMark]
    simp
  · refine Text.isBlankText_eq_false (c := 'h') ?_ (by decide)
    simp

theorem Override.isBlankText_origin (o : Override) : Text.isBlankText o.origin = false := by
  refine Text.isBlankText_eq_false (c := 'h') ?_ (by decide)
  cases o <;> simp [Override.origin]

/-- An origin that is not blank is not missed. -/
theorem DialOptions.validate_ne_missing {o : DialOptions}
    (h : Text.isBlankText o.origin = false) : o.validate ≠ .error .missingDestination := by
  intro hmissing
  cases webSocketUrl_eq_error_iff.mp (validate_eq_error.mp hmissing) with
  | missing hblank => cases h.symm.trans hblank

/-- The options of an entry have an origin. -/
theorem ForwarderEntry.origin_given {env : Environment} {e : ForwarderEntry}
    {options : DialOptions} {records : List LogRecord}
    (h : e.options env = .ok (options, records)) : Text.isBlankText options.origin = false := by
  unfold ForwarderEntry.options at h
  dsimp only at h
  cases hresolve : DialOptions.resolve (e.connectTo.getD "")
      { origin := ensureScheme e.url, headers := e.accessHeaders env } with
  | error cause =>
    rw [hresolve] at h
    cases h
  | ok found =>
    rw [hresolve] at h
    cases h
    rcases DialOptions.resolve_eq_ok.mp hresolve with ⟨-, rfl, -⟩ | ⟨o, -, happly⟩
    · exact isBlankText_ensureScheme e.url
    · rw [Override.apply_eq] at happly
      cases happly
      exact o.isBlankText_origin

namespace Config

open ForwarderEntry

/-- A configuration is valid exactly where it has entries, no URL is blank and the entries have
addresses, no two of which are the same. Otherwise it has no entries, or what is reported is wrong
with an entry behind some that are in order: its URL is blank, or else its listener is no address,
or else it has the address of one of those. In a valid configuration each entry has one of the
addresses that were looked at, and its options, where they can be made, do not lack an origin. -/
theorem validate_exact (c : Config) :
    (c.validate = .ok () ↔ c.forwarders ≠ [] ∧ ∃ addresses, Sound c.forwarders addresses) ∧
      (∀ fault, c.validate = .error fault ↔
        (c.forwarders = [] ∧ fault = .noForwarders) ∨
          ∃ before e after addresses, c.forwarders = before ++ e :: after ∧
            Sound before addresses ∧ Refused before e fault) ∧
      ∀ addresses, Sound c.forwarders addresses → ∀ e ∈ c.forwarders,
        (∃ address ∈ addresses, e.HasAddress address) ∧
          ∀ env options records, e.options env = .ok (options, records) →
            options.validate ≠ .error .missingDestination := by
  refine ⟨validate_eq_ok, fun fault => ?_, fun addresses hsound e he => ⟨hsound.address e he, ?_⟩⟩
  · rw [validate_eq_error, first_iff]
    refine or_congr Iff.rfl ⟨?_, ?_⟩
    · rintro ⟨before, e, after, hentries, hfirst, hrefused⟩
      obtain ⟨addresses, hsound⟩ := sound_iff.mp hfirst
      exact ⟨before, e, after, addresses, hentries, hsound, hrefused⟩
    · rintro ⟨before, e, after, addresses, hentries, hsound, hrefused⟩
      exact ⟨before, e, after, hentries, sound_iff.mpr ⟨addresses, hsound⟩, hrefused⟩
  · intro env options records hoptions
    have hgiven := origin_given hoptions
    exact DialOptions.validate_ne_missing hgiven

end Config

end Carrier
