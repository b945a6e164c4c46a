import Carrier.Header.Access
import Carrier.Proofs.Dial.Stages

/-!
# Dials with one more header

Custom headers are read from entries, and each entry that is a header has its place in the request.
One more entry leaves the rest of the request as it is, so that a dial goes on as before. There are
two exceptions. A value has to be visible to be sent, but not to be taken for a header value, and
one that is not keeps the whole request from being sent. An entry may also ask for protocols above
the WebSocket, and the answer has to agree to one of them.

- `DialOptions.withEntries`: options whose headers are read from entries.
- `Sendable`, `AsksProtocol`: what an entry has to do with the success of a dial.
- `HeaderMap.addPairs_entries`: the entries of a map are read one by one.
- `DialOptions.request_entry`: a request with one more entry.
- `UpgradeAnswer.fault?_of_none`: an answer that is judged again, with other protocols asked for.
- `Dialer.dial_entry`: what becomes of a dial that succeeds, with one more entry.
-/

namespace Carrier

/-- An entry does not keep a request from being sent: what it stands for is visible, or is not sent
since every upgrade has a header of this name. -/
def Sendable (entry : String) : Prop :=
  ∀ e ∈ readPair? entry, e.1 ∈ HeaderName.mandatory ∨ e.2.isVisible = true

instance (entry : String) : Decidable (Sendable entry) :=
  inferInstanceAs (Decidable (∀ e ∈ readPair? entry, _))

/-- An entry asks for protocols above the WebSocket. -/
def AsksProtocol (entry : String) : Prop := ∃ e ∈ readPair? entry, e.1 = HeaderName.subprotocol

instance (entry : String) : Decidable (AsksProtocol entry) :=
  inferInstanceAs (Decidable (∃ e ∈ readPair? entry, _))

namespace HeaderMap

/-- The entries of a map are read one by one. -/
theorem addPairs_entries (m : HeaderMap) (raws : List String) :
    (m.addPairs raws).entries = m.entries ++ raws.filterMap readPair? := by
  induction raws generalizing m with
  | nil => exact (List.append_nil _).symm
  | cons raw raws ih =>
    show ((m.addPair raw).addPairs raws).entries = _
    rw [ih]
    unfold addPair
    cases hread : readPair? raw with
    | none => rw [List.filterMap_cons_none hread]
    | some pair =>
      rw [List.filterMap_cons_some hread]
      simp [append]

end HeaderMap

/-- The options with headers that are read from entries. -/
def DialOptions.withEntries (o : DialOptions) (entries : List String) : DialOptions :=
  { o with headers := HeaderMap.empty.addPairs entries }

/-! ### What entries add to a request -/

/-- The headers that are sent for entries. -/
def sentEntries (entries : List String) : List (HeaderName × HeaderValue) :=
  (entries.filterMap readPair?).filter fun e => !HeaderName.mandatory.contains e.1

/-- The values by which entries ask for protocols above the WebSocket. -/
def askedEntries (entries : List String) : List HeaderValue :=
  ((entries.filterMap readPair?).filter (·.1 = HeaderName.subprotocol)).map (·.2)

section Added

variable (entries : List String)

theorem further_addPairs : (HeaderMap.empty.addPairs entries).further = sentEntries entries := by
  unfold HeaderMap.further
  rw [HeaderMap.addPairs_entries]
  rfl

theorem valuesOf_addPairs :
    (HeaderMap.empty.addPairs entries).valuesOf .subprotocol = askedEntries entries := by
  unfold HeaderMap.valuesOf
  rw [HeaderMap.addPairs_entries]
  rfl

theorem sentEntries_append (before after : List String) :
    sentEntries (before ++ after) = sentEntries before ++ sentEntries after := by
  unfold sentEntries
  rw [List.filterMap_append, List.filter_append]

theorem askedEntries_append (before after : List String) :
    askedEntries (before ++ after) = askedEntries before ++ askedEntries after := by
  unfold askedEntries
  rw [List.filterMap_append, List.filter_append, List.map_append]

theorem sendable_iff (entry : String) :
    Sendable entry ↔ ∀ e ∈ sentEntries [entry], e.2.isVisible = true := by
  unfold Sendable sentEntries
  cases hread : readPair? entry with
  | none => simp [hread]
  | some e => simp [hread, Decidable.or_iff_not_imp_left]

/-- The header of an entry has its place among those of the others. -/
theorem sentEntries_insert (before after : List String) (entry : String) :
    sentEntries (before ++ entry :: after) =
      sentEntries before ++ sentEntries [entry] ++ sentEntries after := by
  rw [List.append_cons, sentEntries_append, sentEntries_append]

theorem visible_insert (before after : List String) (entry : String) :
    (∀ e ∈ sentEntries (before ++ entry :: after), e.2.isVisible = true) ↔
      Sendable entry ∧ ∀ e ∈ sentEntries (before ++ after), e.2.isVisible = true := by
  rw [sentEntries_insert, sentEntries_append, sendable_iff]
  simp only [List.forall_mem_append]
  constructor
  · rintro ⟨⟨hbefore, hentry⟩, hafter⟩
    exact ⟨hentry, hbefore, hafter⟩
  · rintro ⟨hentry, hbefore, hafter⟩
    exact ⟨⟨hbefore, hentry⟩, hafter⟩

theorem askedEntries_eq_nil :
    askedEntries entries = [] ↔ ∀ entry ∈ entries, ¬ AsksProtocol entry := by
  unfold askedEntries AsksProtocol
  rw [List.map_eq_nil_iff, List.filter_eq_nil_iff]
  constructor
  · rintro h entry hentry ⟨e, he, hname⟩
    exact h e (List.mem_filterMap.mpr ⟨entry, hentry, he⟩) (decide_eq_true hname)
  · intro h e he hname
    obtain ⟨entry, hentry, hread⟩ := List.mem_filterMap.mp he
    exact h entry hentry ⟨e, hread, of_decide_eq_true hname⟩

end Added

/-- The first value decides which protocols are asked for. -/
theorem head?_askedEntries_insert {before after : List String} {entry : String}
    (h : AsksProtocol entry → ∃ earlier ∈ before, AsksProtocol earlier) :
    (askedEntries (before ++ entry :: after)).head? = (askedEntries (before ++ after)).head? := by
  rw [List.append_cons, askedEntries_append, askedEntries_append, askedEntries_append]
  by_cases hasks : AsksProtocol entry
  · obtain ⟨earlier, hearlier, hfirst⟩ := h hasks
    have hne : askedEntries before ≠ [] := fun hnil =>
      (askedEntries_eq_nil before).mp hnil earlier hearlier hfirst
    obtain ⟨value, values, hbefore⟩ := List.exists_cons_of_ne_nil hne
    rw [hbefore]
    rfl
  · have hnone : askedEntries [entry] = [] := by
      refine (askedEntries_eq_nil [entry]).mpr fun other hother => ?_
      rw [List.mem_singleton.mp hother]
      exact hasks
    rw [hnone, List.append_nil]

/-- A request that carries one more entry than another. What is said of places is about the values
of one name: the order among headers of different names is not modelled. -/
structure SentRequest.Gains (r added : SentRequest) (before : List String) (entry : String)
    (after : List String) : Prop where
  /-- The targets are the same. -/
  target : added.target = r.target
  /-- The answer to the challenge is the same. -/
  accept : added.accept = r.accept
  /-- The header of the entry is in its place among those of the other entries. -/
  headers : ∃ first, r.headers = first ++ (sentEntries before ++ sentEntries after) ∧
    added.headers = first ++ (sentEntries before ++ sentEntries [entry] ++ sentEntries after)
  /-- The same protocols are asked for, unless the entry is the first to ask for some. -/
  subprotocols : (AsksProtocol entry → ∃ earlier ∈ before, AsksProtocol earlier) →
    added.subprotocols = r.subprotocols

namespace DialOptions

variable {o : DialOptions} {url : Url} {key : HeaderValue} {before after : List String}
  {request : SentRequest}

/-- A request asks for protocols where one of its entries does. -/
theorem request_subprotocols {entries : List String}
    (h : (o.withEntries entries).request url key = .ok request) :
    request.subprotocols = none ↔ ∀ entry ∈ entries, ¬ AsksProtocol entry := by
  obtain ⟨target, host, rfl, -, -⟩ := request_eq_ok h
  show UpgradeRequest.subprotocols? ⟨target, HeaderMap.empty.addPairs entries⟩ = none ↔ _
  unfold UpgradeRequest.subprotocols?
  rw [Option.map_eq_none_iff, List.head?_eq_none_iff, valuesOf_addPairs, askedEntries_eq_nil]

/-- One more entry keeps a request from being sent, or has its place in it. -/
theorem request_entry (h : (o.withEntries (before ++ after)).request url key = .ok request)
    (entry : String) :
    (¬ Sendable entry → (o.withEntries (before ++ entry :: after)).request url key =
      .error (.handshake UpgradeFault.unsendable.message)) ∧
    (Sendable entry → ∃ added, (o.withEntries (before ++ entry :: after)).request url key =
      .ok added ∧ request.Gains added before entry after) := by
  obtain ⟨target, host, rfl, hvisible, hmade⟩ := request_eq_ok h
  have hadded := hmade (HeaderMap.empty.addPairs (before ++ entry :: after)) key
  rw [SentRequest.composed_visible] at hvisible
  obtain ⟨hhost, hkey, hothers⟩ := hvisible
  rw [show (o.withEntries (before ++ after)).headers.further = sentEntries (before ++ after) from
    further_addPairs _] at hothers
  constructor
  · intro hstuck
    refine hadded.trans (if_neg ?_)
    rw [SentRequest.composed_visible, further_addPairs, visible_insert]
    rintro ⟨-, -, hsendable, -⟩
    exact hstuck hsendable
  · intro hsendable
    refine ⟨_, hadded.trans (if_pos ?_), rfl, rfl, ?_, fun hasked => ?_⟩
    · rw [SentRequest.composed_visible, further_addPairs, visible_insert]
      exact ⟨hhost, hkey, hsendable, hothers⟩
    · -- the headers that every upgrade needs come first, with and without the entry
      refine ⟨(UpgradeRequest.standardHeaders host key).entries, ?_, ?_⟩
      · rw [← sentEntries_append, ← further_addPairs]
        rfl
      · rw [← sentEntries_insert, ← further_addPairs]
        rfl
    · show UpgradeRequest.subprotocols? _ = UpgradeRequest.subprotocols? _
      unfold UpgradeRequest.subprotocols?
      rw [valuesOf_addPairs]
      show _ = Option.map _ ((HeaderMap.empty.addPairs (before ++ after)).valuesOf _).head?
      rw [valuesOf_addPairs, head?_askedEntries_insert hasked]

end DialOptions

/-! ### Answers to one more entry -/

namespace UpgradeAnswer

/-- What is wrong with an answer comes before what is wrong with its protocols. -/
theorem fault?_eq (accept : String) (a : UpgradeAnswer) :
    ∃ front : Option UpgradeFault, ∀ asked, a.fault? accept asked =
      front.or (subprotocolFault? asked (a.first? "sec-websocket-protocol")) := by
  unfold fault?
  -- whatever is found in front of the protocols is found for all that may be asked for
  by_cases hold : a.old
  · exact ⟨some .oldVersion, fun _ => if_pos hold⟩
  simp only [if_neg hold]
  by_cases hstatus : a.status < 100
  · exact ⟨some .noStatus, fun _ => if_pos hstatus⟩
  simp only [if_neg hstatus]
  by_cases hrejected : a.status ≠ 101
  · exact ⟨some (.rejected a.status ((a.first? "location").bind visible?)),
      fun _ => if_pos hrejected⟩
  simp only [if_neg hrejected]
  by_cases hupgrade : !a.announces "upgrade" "websocket"
  · exact ⟨some .noUpgradeHeader, fun _ => if_pos hupgrade⟩
  simp only [if_neg hupgrade]
  by_cases hconnection : !a.announces "connection" "upgrade"
  · exact ⟨some .noConnectionHeader, fun _ => if_pos hconnection⟩
  simp only [if_neg hconnection]
  by_cases haccept : a.first? "sec-websocket-accept" ≠ some (ascii accept)
  · exact ⟨some .wrongAccept, fun _ => if_pos haccept⟩
  simp only [if_neg haccept]
  exact ⟨none, fun _ => rfl⟩

/-- An answer that is an upgrade has nothing wrong with it but its protocol, when others are asked
for. -/
theorem fault?_of_none {a : UpgradeAnswer} {accept : String} {asked : Option (List String)}
    (h : a.fault? accept asked = none) :
    subprotocolFault? asked (a.first? "sec-websocket-protocol") = none ∧
      ∀ other, a.fault? accept other =
        subprotocolFault? other (a.first? "sec-websocket-protocol") := by
  obtain ⟨front, hfront⟩ := fault?_eq accept a
  rw [hfront, Option.or_eq_none_iff] at h
  obtain ⟨rfl, hprotocol⟩ := h
  exact ⟨hprotocol, hfront⟩

/-- Where no protocol was asked for, none is answered. -/
theorem subprotocolFault?_some_of_none {answered : Option Bytes} (names : List String)
    (h : subprotocolFault? none answered = none) :
    subprotocolFault? (some names) answered = some .noSubprotocol := by
  cases answered with
  | none => rfl
  | some value => cases h

/-- Where a protocol was asked for, others may be asked for if the answer is among them. -/
theorem subprotocolFault?_some_of_some {answered : Option Bytes} {asked : List String}
    (names : List String) (h : subprotocolFault? (some asked) answered = none) :
    subprotocolFault? (some names) answered = none ∨
      subprotocolFault? (some names) answered = some .otherSubprotocol := by
  cases answered with
  | none => cases h
  | some value =>
    unfold subprotocolFault? at h ⊢
    dsimp only at h ⊢
    cases hvisible : visible? value with
    | none =>
      rw [hvisible] at h
      cases h
    | some name =>
      dsimp only
      split
      · exact .inl rfl
      · exact .inr rfl

end UpgradeAnswer

/-- An origin that grants an upgrade to the sample key. -/
def Origin.granting : Origin :=
  { connect := fun _ => .now (.ok ()), agree := fun _ => .now (.ok ())
    writes := [(⟨0⟩, UpgradeAnswer.ascii ("HTTP/1.1 101\r\nUpgrade: websocket\r\n" ++
      "Connection: Upgrade\r\nSec-WebSocket-Accept: ICX+Yqv66kxgM0FcWaLWlFLwTAI=\r\n\r\n"))]
    last := .silence }

/-- A dial that has come to the same, with a request that carries one more entry. -/
structure Established.Gains (w added : Established) (before : List String) (entry : String)
    (after : List String) : Prop where
  /-- The URL is the same. -/
  url : added.url = w.url
  /-- The same has come after the answer. -/
  early : added.early = w.early
  /-- The request carries the entry. -/
  request : w.request.Gains added.request before entry after

namespace Dialer

variable {d : Dialer} {o : DialOptions} {key : HeaderValue} {origin : Origin} {url : Url}
  {request : SentRequest} {wait more : Duration}

/-- The stages in front of the request do not know the headers. -/
theorem reach_withEntries (o : DialOptions) (entries : List String) (origin : Origin) :
    reach (o.withEntries entries) origin = reach o origin := rfl

/-- An upgrade that is granted makes a dial succeed. -/
theorem dial_granting :
    ∃ w, ({} : Dialer).dial (DialOptions.withEntries { origin := "ws://localhost" }
      (["A: 1"] ++ ["B: 2"])) .sampleKey .granting = .ok w := by
  have hok : (({} : Dialer).dial (DialOptions.withEntries { origin := "ws://localhost" }
      (["A: 1"] ++ ["B: 2"])) .sampleKey .granting).isOk = true := by decide +kernel
  revert hok
  cases ({} : Dialer).dial _ _ _ with
  | error cause => exact fun hok => nomatch hok
  | ok w => exact fun _ => ⟨w, rfl⟩

/-- A dial that succeeds goes on as before with one more entry, wherever it is added: its request
carries the header of the entry in its place, or nothing for an entry that is none. Two kinds of
entries are different. A value that is not visible is taken for a header value, but the request with
it is not sent. And an entry that is the first to ask for protocols above the WebSocket wants an
answer: the dial fails if no other entry asks for any, and may fail if another one does. -/
theorem dial_entry {before after : List String} {w : Established}
    (h : d.dial (o.withEntries (before ++ after)) key origin = .ok w) (entry : String) :
    let added := d.dial (o.withEntries (before ++ entry :: after)) key origin
    (¬ Sendable entry → added = .error (.handshake UpgradeFault.unsendable.message)) ∧
    (Sendable entry → (AsksProtocol entry → ∃ earlier ∈ before, AsksProtocol earlier) →
      ∃ x, added = .ok x ∧ w.Gains x before entry after) ∧
    (Sendable entry → AsksProtocol entry → (∀ other ∈ before ++ after, ¬ AsksProtocol other) →
      added = .error UpgradeFault.noSubprotocol.dialError) ∧
    (Sendable entry → (∃ other ∈ before ++ after, AsksProtocol other) →
      (∃ x, added = .ok x ∧ w.Gains x before entry after) ∨
        added = .error UpgradeFault.otherSubprotocol.dialError) := by
  obtain ⟨wait, url, request, more, hreach, hrequest, hupgrade, htime⟩ := dial_eq_ok h
  obtain ⟨hstuck, hsent⟩ := DialOptions.request_entry hrequest entry
  obtain ⟨answer, early, hlisten, hnone, rfl⟩ := upgrade_eq_ok hupgrade
  obtain ⟨hprotocol, hother⟩ := UpgradeAnswer.fault?_of_none hnone
  rw [reach_withEntries] at hreach
  -- the answer is the same, and is judged by the protocols that are asked for now
  have hsuccess {r : SentRequest}
      (hr : (o.withEntries (before ++ entry :: after)).request url key = .ok r)
      (hgains : request.Gains r before entry after)
      (hagreed : UpgradeAnswer.subprotocolFault? r.subprotocols
        (answer.first? "sec-websocket-protocol") = none) :
      d.dial (o.withEntries (before ++ entry :: after)) key origin = .ok ⟨url, r, early⟩ := by
    refine dial_of_answered hreach hr (upgrade_of_none hlisten ?_) htime
    rw [hgains.accept, hother, hagreed]
  have hfailure {r : SentRequest} {fault : UpgradeFault}
      (hr : (o.withEntries (before ++ entry :: after)).request url key = .ok r)
      (hgains : request.Gains r before entry after)
      (hfault : UpgradeAnswer.subprotocolFault? r.subprotocols
        (answer.first? "sec-websocket-protocol") = some fault) :
      d.dial (o.withEntries (before ++ entry :: after)) key origin = .error fault.dialError := by
    refine dial_of_answered hreach hr (upgrade_of_fault hlisten ?_) htime
    rw [hgains.accept, hother, hfault]
  refine ⟨?_, ?_, ?_, ?_⟩
  · intro hunsendable
    have hsoon : wait ≤ d.timeout := Duration.le_trans (Duration.le_add_right wait more) htime
    exact dial_of_unasked hreach (hstuck hunsendable) hsoon
  · intro hsendable hasked
    obtain ⟨r, hr, hgains⟩ := hsent hsendable
    rw [← hgains.subprotocols hasked] at hprotocol
    exact ⟨_, hsuccess hr hgains hprotocol, rfl, rfl, hgains⟩
  · intro hsendable hasks halone
    obtain ⟨r, hr, hgains⟩ := hsent hsendable
    rw [(DialOptions.request_subprotocols hrequest).mpr halone] at hprotocol
    refine hfailure hr hgains ?_
    cases hasked : r.subprotocols with
    | none => exact absurd hasks ((DialOptions.request_subprotocols hr).mp hasked entry (by simp))
    | some names => exact UpgradeAnswer.subprotocolFault?_some_of_none names hprotocol
  · rintro hsendable ⟨other, hmem, hasks⟩
    obtain ⟨r, hr, hgains⟩ := hsent hsendable
    have hstill : other ∈ before ++ entry :: after := by
      rcases List.mem_append.mp hmem with hbefore | hafter
      · exact List.mem_append_left _ hbefore
      · exact List.mem_append_right _ (List.mem_cons_of_mem _ hafter)
    cases hasked : request.subprotocols with
    | none => exact absurd hasks ((DialOptions.request_subprotocols hrequest).mp hasked other hmem)
    | some asked =>
      cases hnow : r.subprotocols with
      | none => exact absurd hasks ((DialOptions.request_subprotocols hr).mp hnow other hstill)
      | some names =>
        rw [hasked] at hprotocol
        rcases UpgradeAnswer.subprotocolFault?_some_of_some names hprotocol with hagreed | hfault
        · rw [← hnow] at hagreed
          exact .inl ⟨_, hsuccess hr hgains hagreed, rfl, rfl, hgains⟩
        · rw [← hnow] at hfault
          exact .inr (hfailure hr hgains hfault)

/-- A header that can be sent finds its place among the others. -/
theorem dial_entry_plain :
    let o : DialOptions := { origin := "ws://localhost" }
    let dial (entries : List String) :=
      ({} : Dialer).dial (o.withEntries entries) .sampleKey .granting
    Sendable "X-Foo: bar" ∧ ¬ AsksProtocol "X-Foo: bar" ∧
      ∃ w x, dial (["A: 1"] ++ ["B: 2"]) = .ok w ∧
        dial (["A: 1"] ++ "X-Foo: bar" :: ["B: 2"]) = .ok x ∧
        w.Gains x ["A: 1"] "X-Foo: bar" ["B: 2"] := by
  intro o dial
  obtain ⟨w, hdial⟩ := dial_granting
  have hsendable : Sendable "X-Foo: bar" := by decide +kernel
  have hsilent : ¬ AsksProtocol "X-Foo: bar" := by decide +kernel
  obtain ⟨x, hx, hgains⟩ := (dial_entry hdial "X-Foo: bar").2.1 hsendable (absurd · hsilent)
  exact ⟨hsendable, hsilent, w, x, hdial, hx, hgains⟩

/-- A value that is not visible is taken for a header, and keeps a dial from succeeding that would
succeed without it. -/
theorem dial_entry_invisible :
    let o : DialOptions := { origin := "ws://localhost" }
    let dial (entries : List String) :=
      ({} : Dialer).dial (o.withEntries entries) .sampleKey .granting
    o.validate = .ok () ∧ (readPair? "X-Name: é").isSome = true ∧
      (∃ w, dial (["A: 1"] ++ ["B: 2"]) = .ok w) ∧
      dial (["A: 1"] ++ "X-Name: é" :: ["B: 2"]) = .error (.handshake "UTF-8 encoding error") := by
  refine ⟨by rfl, by decide +kernel, dial_granting, ?_⟩
  exact @dial_of_unasked _ _ _ _ _ ⟨0⟩ _ rfl (by rfl) (Nat.zero_le _)

end Dialer

end Carrier
