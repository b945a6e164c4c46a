import Carrier.Config.Read

/-!
# Which configurations are used

A configuration is looked at from left to right, and the first entry at fault decides what is
reported.

- `First`: the first element of a list that is refused, and why.
- `ForwarderEntry.Refused`: what is wrong with an entry that stands behind others.
- `Config.Unusable`: why the configuration in a file is not used.
- `Config.load_eq_error`, `Config.load_eq_ok`: loading decides between the two.
-/

namespace Carrier

/-! ### The first that is refused -/

section First

variable {α ε : Type} {R : List α → α → ε → Prop}

/-- `First R before xs fault`: of the elements `xs`, which stand behind `before`, one is refused
with a fault, and none in front of it is refused at all. Whether one is refused may depend on those
in front of it. -/
inductive First (R : List α → α → ε → Prop) : List α → List α → ε → Prop where
  | here {before : List α} {x : α} {rest : List α} {fault : ε} (refused : R before x fault) :
    First R before (x :: rest) fault
  | later {before : List α} {x : α} {rest : List α} {fault : ε} (passes : ∀ f, ¬ R before x f)
    (first : First R (before ++ [x]) rest fault) : First R before (x :: rest) fault

theorem First.refused {before xs : List α} {fault : ε} (h : First R before xs fault) :
    ∃ inFront x, R inFront x fault := by
  induction h with
  | here refused => exact ⟨_, _, refused⟩
  | later passes first ih => exact ih

theorem First.not_nil {before : List α} {fault : ε} : ¬ First R before [] fault := nofun

/-- Behind one that passes, the first that is refused is among the rest. -/
theorem first_cons {before : List α} {x : α} (hpasses : ∀ f, ¬ R before x f) (rest : List α)
    (fault : ε) : First R before (x :: rest) fault ↔ First R (before ++ [x]) rest fault := by
  constructor
  · rintro (⟨refused⟩ | ⟨-, first⟩)
    · exact absurd refused (hpasses fault)
    · exact first
  · exact .later hpasses

/-- One that is refused is the first. -/
theorem first_of_refused {before : List α} {x : α} {fault : ε} (hrefused : R before x fault)
    (hsame : ∀ f, R before x f → f = fault) (rest : List α) (other : ε) :
    First R before (x :: rest) other ↔ other = fault := by
  constructor
  · rintro (⟨refused⟩ | ⟨passes, -⟩)
    · exact hsame other refused
    · exact absurd hrefused (passes fault)
  · rintro rfl
    exact .here hrefused

end First

/-! ### Entries -/

namespace ForwarderEntry

/-- The text that an entry has a listener bound to. -/
def HasAddress (e : ForwarderEntry) (address : String) : Prop :=
  listenerAddress e.listener = .ok address

/-- What is wrong with an entry that stands behind others: its URL is blank, or else its listener is
no address, or else it is the address of one in front of it. -/
inductive Refused (before : List ForwarderEntry) (e : ForwarderEntry) : ConfigFault → Prop where
  | blankUrl (blank : Text.isBlankText e.url = true) : Refused before e (.blankUrl e.listener)
  | invalidListener {cause : SetupError} (written : Text.isBlankText e.url = false)
    (invalid : listenerAddress e.listener = .error cause) :
    Refused before e (.invalidListener cause)
  | duplicate {address : String} {d : ForwarderEntry} (written : Text.isBlankText e.url = false)
    (here : e.HasAddress address) (inFront : d ∈ before) (same : d.HasAddress address) :
    Refused before e (.duplicateListener address)

/-- `Seen before seen`: the texts `seen` are those that the entries `before` have their listeners
bound to. -/
def Seen (before : List ForwarderEntry) (seen : List String) : Prop :=
  ∀ address, address ∈ seen ↔ ∃ d ∈ before, d.HasAddress address

variable {before : List ForwarderEntry} {seen : List String} {e : ForwarderEntry}

theorem Seen.nil : Seen [] [] := by
  intro address
  simp

theorem Seen.snoc (h : Seen before seen) {address : String} (haddress : e.HasAddress address) :
    Seen (before ++ [e]) (address :: seen) := by
  intro other
  rw [List.mem_cons, h other]
  constructor
  · rintro (rfl | ⟨d, hd, hsame⟩)
    · exact ⟨e, by simp, haddress⟩
    · exact ⟨d, List.mem_append_left _ hd, hsame⟩
  · rintro ⟨d, hd, hsame⟩
    rcases List.mem_append.mp hd with hd | hd
    · exact .inr ⟨d, hd, hsame⟩
    · rw [List.mem_singleton.mp hd] at hsame
      exact .inl (Except.ok.inj (hsame.symm.trans haddress))

/-- An entry is checked for what can be wrong with it. -/
theorem check_eq_error (h : Seen before seen) {fault : ConfigFault} :
    e.check seen = .error fault ↔ Refused before e fault := by
  unfold check
  cases hblank : Text.isBlankText e.url with
  | true =>
    constructor
    · rintro ⟨⟩
      exact .blankUrl hblank
    · rintro (_ | ⟨written, -⟩ | ⟨written, -, -, -⟩)
      · rfl
      · cases hblank.symm.trans written
      · cases hblank.symm.trans written
  | false =>
    rw [if_neg Bool.false_ne_true]
    cases haddress : listenerAddress e.listener with
    | error cause =>
      constructor
      · rintro ⟨⟩
        exact .invalidListener hblank haddress
      · rintro (blank | ⟨-, invalid⟩ | ⟨-, here, -, -⟩)
        · cases hblank.symm.trans blank
        · cases haddress.symm.trans invalid
          rfl
        · cases haddress.symm.trans here
    | ok address =>
      dsimp only
      constructor
      · intro hcheck
        split at hcheck
        · rename_i hmem
          cases hcheck
          obtain ⟨d, hd, hsame⟩ := (h address).mp hmem
          exact .duplicate hblank haddress hd hsame
        · cases hcheck
      · rintro (blank | ⟨-, invalid⟩ | ⟨-, here, inFront, same⟩)
        · cases hblank.symm.trans blank
        · cases haddress.symm.trans invalid
        · cases haddress.symm.trans here
          simp [(h address).mpr ⟨_, inFront, same⟩]

/-- An entry that is not refused has an address. -/
theorem check_address {address : String} (hcheck : e.check seen = .ok address) :
    e.HasAddress address := by
  unfold check at hcheck
  split at hcheck
  · cases hcheck
  · split at hcheck
    · cases hcheck
    · rename_i found haddress
      split at hcheck
      · cases hcheck
      · cases hcheck
        exact haddress

theorem check_passes (h : Seen before seen) {address : String}
    (hcheck : e.check seen = .ok address) (f : ConfigFault) : ¬ Refused before e f := by
  intro hrefused
  cases hcheck.symm.trans ((check_eq_error h).mpr hrefused)

end ForwarderEntry

namespace Config

open ForwarderEntry

/-- The entries are checked from left to right, and the first that is refused is reported. -/
theorem check_eq_error {before : List ForwarderEntry} {seen : List String} (h : Seen before seen)
    (entries : List ForwarderEntry) (fault : ConfigFault) :
    check seen entries = .error fault ↔ First Refused before entries fault := by
  -- the addresses that are seen grow with the entries that have passed
  induction entries generalizing before seen with
  | nil => exact ⟨nofun, fun hfirst => absurd hfirst First.not_nil⟩
  | cons e rest ih =>
    rw [check]
    cases hcheck : e.check seen with
    | error found =>
      have hrefused := (ForwarderEntry.check_eq_error h).mp hcheck
      have hsame (f : ConfigFault) (hf : Refused before e f) : f = found := by
        cases hcheck.symm.trans ((ForwarderEntry.check_eq_error h).mpr hf)
        rfl
      rw [first_of_refused hrefused hsame]
      exact ⟨fun heq => (Except.error.inj heq).symm, fun heq => by rw [heq]⟩
    | ok address =>
      rw [first_cons (check_passes h hcheck)]
      exact ih (h.snoc (check_address hcheck))

theorem check_addresses {seen : List String} {entries : List ForwarderEntry}
    (h : check seen entries = .ok ()) : ∀ e ∈ entries, ∃ address, e.HasAddress address := by
  induction entries generalizing seen with
  | nil => exact fun e he => absurd he List.not_mem_nil
  | cons e rest ih =>
    rw [check] at h
    cases hcheck : e.check seen with
    | error found =>
      rw [hcheck] at h
      cases h
    | ok address =>
      rw [hcheck] at h
      intro d hd
      rcases List.mem_cons.mp hd with rfl | hd
      · exact ⟨address, check_address hcheck⟩
      · exact ih h d hd

/-- `Reads files path config`: the file holds a text that stands for a configuration. -/
def Reads (files : String → Except IoFault Bytes) (path : String) (config : Config) : Prop :=
  ∃ bytes text, files path = .ok bytes ∧ Utf8.decode? bytes = some text ∧
    (Yaml.Document.ofText (String.ofList text)).decode decode = .ok config

/-- Why a file holds no configuration. -/
inductive Unread (files : String → Except IoFault Bytes) (path : String) : ConfigFault → Prop where
  /-- The file is not read. -/
  | unreadable {fault : IoFault} (unread : files path = .error fault) :
    Unread files path (.unreadable path fault)
  /-- It holds no text. -/
  | invalidText {bytes : Bytes} (read : files path = .ok bytes)
    (invalid : Utf8.decode? bytes = none) : Unread files path (.unreadable path .invalidText)
  /-- The text does not stand for a configuration. -/
  | malformed {bytes : Bytes} {text : List Char} {fault : Yaml.DecodeFault}
    (read : files path = .ok bytes) (valid : Utf8.decode? bytes = some text)
    (wrong : (Yaml.Document.ofText (String.ofList text)).decode decode = .error fault) :
    Unread files path (.malformed fault)

/-- Why the configuration in a file is not used. -/
inductive Unusable (files : String → Except IoFault Bytes) (path : String) :
    ConfigFault → Prop where
  /-- There is none. -/
  | unread {fault : ConfigFault} (unread : Unread files path fault) : Unusable files path fault
  /-- It has no entries. -/
  | noForwarders (reads : Reads files path ⟨[]⟩) : Unusable files path .noForwarders
  /-- An entry is refused, and none in front of it. -/
  | refused {config : Config} {fault : ConfigFault} (reads : Reads files path config)
    (first : First Refused [] config.forwarders fault) : Unusable files path fault

variable {files : String → Except IoFault Bytes} {path : String}

theorem unread_or_reads (files : String → Except IoFault Bytes) (path : String) :
    (∃ fault, Unread files path fault) ∨ ∃ config, Reads files path config := by
  cases hfile : files path with
  | error fault => exact .inl ⟨_, .unreadable hfile⟩
  | ok bytes =>
    cases htext : Utf8.decode? bytes with
    | none => exact .inl ⟨_, .invalidText hfile htext⟩
    | some text =>
      cases hdecode : (Yaml.Document.ofText (String.ofList text)).decode decode with
      | error fault => exact .inl ⟨_, .malformed hfile htext hdecode⟩
      | ok config => exact .inr ⟨config, bytes, text, hfile, htext, hdecode⟩

theorem load_unread {fault : ConfigFault} (h : Unread files path fault) :
    load files path = .error fault := by
  unfold load
  cases h with
  | unreadable unread => rw [unread]
  | invalidText read invalid =>
    rw [read]
    dsimp only
    rw [invalid]
  | malformed read valid wrong =>
    rw [read]
    dsimp only
    rw [valid]
    show ofText _ = _
    unfold ofText
    rw [wrong]
    rfl

theorem load_reads {config : Config} (h : Reads files path config) :
    load files path = config.validate.map fun _ => config := by
  obtain ⟨bytes, text, read, valid, decoded⟩ := h
  unfold load
  rw [read]
  dsimp only
  rw [valid]
  show ofText _ = _
  unfold ofText
  rw [decoded]
  show (config.validate >>= fun _ => pure config) = _
  cases config.validate <;> rfl

/-- A configuration is refused where it has no entries, or for the first entry that is refused. -/
theorem validate_eq_error {config : Config} {fault : ConfigFault} :
    config.validate = .error fault ↔
      (config.forwarders = [] ∧ fault = .noForwarders) ∨
        First Refused [] config.forwarders fault := by
  unfold validate
  cases hentries : config.forwarders with
  | nil =>
    constructor
    · rintro ⟨⟩
      exact .inl ⟨rfl, rfl⟩
    · rintro (⟨-, rfl⟩ | hfirst)
      · rfl
      · exact absurd hfirst First.not_nil
  | cons e rest =>
    show check [] (e :: rest) = .error fault ↔ _
    rw [check_eq_error Seen.nil]
    simp

/-- Where a configuration is not used, what is wrong with it is reported. -/
theorem load_eq_error {fault : ConfigFault} :
    load files path = .error fault ↔ Unusable files path fault := by
  constructor
  · intro hload
    rcases unread_or_reads files path with ⟨found, hunread⟩ | ⟨config, hreads⟩
    · cases hload.symm.trans (load_unread hunread)
      exact .unread hunread
    · rw [load_reads hreads] at hload
      cases hvalidate : config.validate with
      | ok _ =>
        rw [hvalidate] at hload
        cases hload
      | error found =>
        rw [hvalidate] at hload
        cases hload
        rcases validate_eq_error.mp hvalidate with ⟨hnone, rfl⟩ | hfirst
        · obtain ⟨forwarders⟩ := config
          cases hnone
          exact .noForwarders hreads
        · exact .refused hreads hfirst
  · intro hunusable
    cases hunusable with
    | unread hunread => exact load_unread hunread
    | noForwarders hreads => exact load_reads hreads
    | refused hreads hfirst =>
      rw [load_reads hreads, validate_eq_error.mpr (.inr hfirst)]
      rfl

/-- A configuration that is used has been read, and each of its entries has an address. -/
theorem load_eq_ok {config : Config} (h : load files path = .ok config) :
    Reads files path config ∧ ∀ e ∈ config.forwarders, ∃ address, e.HasAddress address := by
  rcases unread_or_reads files path with ⟨found, hunread⟩ | ⟨read, hreads⟩
  · cases h.symm.trans (load_unread hunread)
  · rw [load_reads hreads] at h
    cases hvalidate : read.validate with
    | error found =>
      rw [hvalidate] at h
      cases h
    | ok _ =>
      rw [hvalidate] at h
      cases h
      unfold validate at hvalidate
      split at hvalidate
      · cases hvalidate
      · exact ⟨hreads, check_addresses hvalidate⟩

end Config

end Carrier
