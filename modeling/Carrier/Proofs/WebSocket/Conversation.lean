import Carrier.Proofs.Text.Utf8
import Carrier.WebSocket.Message

/-!
# The messages in a sequence of frames

What a server says in data messages, described without a reader: a message is one frame, or a
first frame and continuations up to a last one, where pings and pongs may come in between.

- `WireFrame.Plain`, `WireFrame.Interlude`: the frames that a server may send.
- `Continuation`, `WholeMessage`: the frames of one message, and its payload.
- `Conversation`: the payloads of all messages up to the first frame that is no part of one.
- `assemble`: the same payloads as frames are accepted one by one.
- `conversation_iff`: the two agree.
-/

namespace Carrier

/-- The kind of frame with which a message begins. -/
def DataKind.opcode : DataKind → Opcode
  | .text => .text
  | .binary => .binary

namespace WireFrame

/-- A frame of a kind, with no reserved bits and no mask. -/
structure Plain (f : WireFrame) (opcode : Opcode) : Prop where
  reserved : f.reserved = 0
  mask : f.mask = none
  code : f.code = opcode.code

/-- A ping or a pong, which may come between the frames of a message. -/
structure Interlude (f : WireFrame) : Prop where
  plain : f.Plain .ping ∨ f.Plain .pong
  fin : f.fin = true
  short : f.payload.length ≤ 125

end WireFrame

/-- The frames of a message after its first one, and what they add to its payload. -/
inductive Continuation : List WireFrame → Bytes → Prop where
  | last {f : WireFrame} (plain : f.Plain .continuation) (hfin : f.fin = true) :
    Continuation [f] f.payload
  | more {f : WireFrame} {fs : List WireFrame} {payload : Bytes} (plain : f.Plain .continuation)
    (hfin : f.fin = false) (rest : Continuation fs payload) :
    Continuation (f :: fs) (f.payload ++ payload)
  | between {f : WireFrame} {fs : List WireFrame} {payload : Bytes} (h : f.Interlude)
    (rest : Continuation fs payload) : Continuation (f :: fs) payload

/-- The payload of a message may be as long as the limit, and that of a text is UTF-8. -/
def Acceptable (limit : Nat) (kind : DataKind) (payload : Bytes) : Prop :=
  payload.length ≤ limit ∧ (kind = .text → ∃ text, payload = Utf8.encode text)

/-- The frames of a whole message, and its payload. -/
inductive WholeMessage (limit : Nat) : List WireFrame → Bytes → Prop where
  | single {f : WireFrame} {kind : DataKind} (plain : f.Plain kind.opcode) (hfin : f.fin = true)
    (accepted : Acceptable limit kind f.payload) : WholeMessage limit [f] f.payload
  | fragmented {f : WireFrame} {fs : List WireFrame} {kind : DataKind} {payload : Bytes}
    (plain : f.Plain kind.opcode) (hfin : f.fin = false) (rest : Continuation fs payload)
    (accepted : Acceptable limit kind (f.payload ++ payload)) :
    WholeMessage limit (f :: fs) (f.payload ++ payload)

/-- The payloads of the whole messages with which a sequence of frames begins, with pings and
pongs between them, as many as there are. -/
inductive Conversation (limit : Nat) : List WireFrame → List Bytes → Prop where
  | between {f : WireFrame} {fs : List WireFrame} {payloads : List Bytes} (h : f.Interlude)
    (rest : Conversation limit fs payloads) : Conversation limit (f :: fs) payloads
  | message {front back : List WireFrame} {payload : Bytes} {payloads : List Bytes}
    (h : WholeMessage limit front payload) (rest : Conversation limit back payloads) :
    Conversation limit (front ++ back) (payload :: payloads)
  | ended {fs : List WireFrame} (hinterlude : ∀ f rest, fs = f :: rest → ¬ f.Interlude)
    (hmessage : ∀ front back payload, fs = front ++ back → ¬ WholeMessage limit front payload) :
    Conversation limit fs []

/-- The payload of the data message that a frame completes, if it completes one. -/
def completed : Option Message → List Bytes
  | some (.data _ payload) => [payload]
  | _ => []

/-- The payloads of the data messages that frames complete, up to the first close frame and the
first one that is refused. -/
def assemble (limit : Nat) : Option Fragments → List WireFrame → List Bytes
  | _, [] => []
  | pending, f :: fs =>
    match acceptFrame limit pending f with
    | .error _ => []
    | .ok (_, some (.close _)) => []
    | .ok (open?, message) => completed message ++ assemble limit open? fs

/-! ### The fragments of one message -/

namespace Fragments

/-- The open message has a kind and a payload so far; of a text it is known how it may go on. -/
structure Holds (m : Fragments) (kind : DataKind) (payload : Bytes) : Prop where
  kind_eq : m.kind = kind
  payload_eq : m.payload = payload
  state_eq : kind = .text → Utf8.check .boundary payload = some m.state

theorem empty_holds (kind : DataKind) : (empty kind).Holds kind [] :=
  ⟨rfl, rfl, fun _ => rfl⟩

variable {limit : Nat} {m m' : Fragments} {kind : DataKind} {payload part : Bytes}

theorem Holds.extend (h : m.Holds kind payload) (hext : m.extend limit part = .ok m') :
    m'.Holds kind (payload ++ part) ∧ (payload ++ part).length ≤ limit := by
  obtain ⟨rfl, rfl, hstate⟩ := h
  unfold Fragments.extend at hext
  simp only at hext
  split at hext
  · cases hext
  · rename_i hlimit
    have hlen : (m.payload ++ part).length ≤ limit := by
      simpa using hlimit
    cases hkind : m.kind with
    | binary =>
      simp only [hkind, Except.ok.injEq] at hext
      subst hext
      exact ⟨⟨rfl, rfl, fun h => by cases h⟩, hlen⟩
    | text =>
      simp only [hkind] at hext
      cases hcheck : Utf8.check m.state part with
      | none => simp [hcheck] at hext
      | some state =>
        simp only [hcheck, Except.ok.injEq] at hext
        subst hext
        refine ⟨⟨rfl, rfl, fun _ => ?_⟩, hlen⟩
        rw [Utf8.check_append, hstate hkind]
        exact hcheck

theorem Holds.extend_ok (h : m.Holds kind payload) (hlen : (payload ++ part).length ≤ limit)
    (htext : kind = .text → (Utf8.check .boundary (payload ++ part)).isSome) :
    ∃ m', m.extend limit part = .ok m' := by
  obtain ⟨rfl, rfl, hstate⟩ := h
  unfold Fragments.extend
  simp only
  rw [if_neg (by simpa using hlen)]
  cases hkind : m.kind with
  | binary => exact ⟨_, rfl⟩
  | text =>
    have hsome := htext hkind
    rw [Utf8.check_append, hstate hkind, Option.bind_some] at hsome
    obtain ⟨state, hcheck⟩ := Option.isSome_iff_exists.mp hsome
    simp only [hcheck]
    exact ⟨_, rfl⟩

theorem Holds.complete (h : m.Holds kind payload)
    (htext : kind = .text → ∃ text, payload = Utf8.encode text) :
    m.complete = .ok (.data kind payload) := by
  obtain ⟨rfl, rfl, hstate⟩ := h
  unfold Fragments.complete
  cases hkind : m.kind with
  | binary => rfl
  | text =>
    have hboundary := (hstate hkind).symm.trans ((Utf8.check_iff _).mpr (htext hkind))
    simp only [Option.some.injEq] at hboundary
    simp only [if_pos hboundary]

theorem Holds.of_complete {message : Message} (h : m.Holds kind payload)
    (hcomplete : m.complete = .ok message) :
    message = .data kind payload ∧
      (kind = .text → ∃ text, payload = Utf8.encode text) := by
  obtain ⟨rfl, rfl, hstate⟩ := h
  unfold Fragments.complete at hcomplete
  cases hkind : m.kind with
  | binary =>
    simp only [hkind, Except.ok.injEq] at hcomplete
    exact ⟨hcomplete.symm, fun h => by cases h⟩
  | text =>
    simp only [hkind] at hcomplete
    split at hcomplete
    · rename_i hboundary
      cases hcomplete
      exact ⟨rfl, fun _ => (Utf8.check_iff _).mp (hboundary ▸ hstate hkind)⟩
    · cases hcomplete

end Fragments

/-! ### Which frames are accepted -/

theorem Opcode.ofCode?_eq_some {code : Nat} {opcode : Opcode} :
    Opcode.ofCode? code = some opcode ↔ code = opcode.code := by
  constructor
  · intro h
    unfold Opcode.ofCode? at h
    split at h <;> cases h <;> rfl
  · rintro rfl
    cases opcode <;> rfl

section Accepting

variable {limit : Nat} {pending : Option Fragments} {f : WireFrame}
  {result : Option Fragments × Option Message}

theorem acceptFrame_plain {opcode : Opcode} (h : f.Plain opcode) :
    acceptFrame limit pending f =
      if opcode.isControl then
        (readControl f opcode).map fun message => (pending, some message)
      else readData limit pending f opcode := by
  obtain ⟨hreserved, hmask, hcode⟩ := h
  unfold acceptFrame
  rw [if_neg (by simpa using hreserved), if_neg (by simp [hmask]),
    Opcode.ofCode?_eq_some.mpr hcode]

/-- A frame is accepted if it is plain and is accepted for its kind. -/
theorem acceptFrame_eq_ok :
    acceptFrame limit pending f = .ok result ↔
      ∃ opcode, f.Plain opcode ∧
        (if opcode.isControl then
          (readControl f opcode).map fun message => (pending, some message)
        else readData limit pending f opcode) = .ok result := by
  constructor
  · intro h
    unfold acceptFrame at h
    split at h
    · cases h
    · rename_i hreserved
      split at h
      · cases h
      · rename_i hmask
        split at h
        · cases h
        · rename_i opcode hcode
          refine ⟨opcode, ⟨?_, ?_, Opcode.ofCode?_eq_some.mp hcode⟩, h⟩
          · simpa using hreserved
          · simpa using hmask
  · rintro ⟨opcode, hplain, h⟩
    rw [acceptFrame_plain hplain]
    exact h

/-- A ping or a pong is accepted at any time, and leaves an open message as it is. -/
theorem acceptFrame_interlude (h : f.Interlude) :
    ∃ message, acceptFrame limit pending f = .ok (pending, some message) ∧
      completed (some message) = [] ∧ ∀ reply, message ≠ .close reply := by
  obtain ⟨hplain, hfin, hshort⟩ := h
  rcases hplain with hplain | hplain
  · refine ⟨.ping f.payload, acceptFrame_eq_ok.mpr ⟨.ping, hplain, ?_⟩, rfl, nofun⟩
    simp [Opcode.isControl, readControl, hfin, Nat.not_lt.mpr hshort, Except.map]
  · refine ⟨.pong f.payload, acceptFrame_eq_ok.mpr ⟨.pong, hplain, ?_⟩, rfl, nofun⟩
    simp [Opcode.isControl, readControl, hfin, Nat.not_lt.mpr hshort, Except.map]

/-- An accepted frame is a ping or a pong, closes, or is part of a message. -/
theorem acceptFrame_cases (h : acceptFrame limit pending f = .ok result) :
    f.Interlude ∨ (∃ reply, result.2 = some (.close reply)) ∨
      ∃ opcode, f.Plain opcode ∧ opcode.isControl = false ∧
        readData limit pending f opcode = .ok result := by
  obtain ⟨opcode, hplain, hresult⟩ := acceptFrame_eq_ok.mp h
  cases hcontrol : opcode.isControl with
  | false =>
    rw [hcontrol] at hresult
    exact .inr (.inr ⟨opcode, hplain, hcontrol, hresult⟩)
  | true =>
    rw [if_pos hcontrol] at hresult
    unfold readControl at hresult
    by_cases hfin : f.fin = true
    · by_cases hshort : f.payload.length ≤ 125
      · rw [if_neg (by simpa using hfin), if_neg (by omega)] at hresult
        cases opcode with
        | ping => exact .inl ⟨.inl hplain, hfin, hshort⟩
        | pong => exact .inl ⟨.inr hplain, hfin, hshort⟩
        | close =>
          cases hreply : closeReply f.payload with
          | error fault => simp [hreply, Except.map] at hresult
          | ok reply =>
            simp only [hreply, Except.map, Except.ok.injEq] at hresult
            exact .inr (.inl ⟨reply, by rw [← hresult]⟩)
        | _ => cases hcontrol
      · rw [if_neg (by simpa using hfin), if_pos (by omega)] at hresult
        cases hresult
    · rw [if_pos (by simpa using hfin)] at hresult
      cases hresult

/-- The kind of frame that says a message other than data. -/
def Message.control? : Message → Option Opcode
  | .data _ _ => none
  | .ping _ => some .ping
  | .pong _ => some .pong
  | .close _ => some .close

theorem Fragments.complete_control {m : Fragments} {message : Message}
    (h : m.complete = .ok message) : message.control? = none := by
  unfold Fragments.complete at h
  split at h
  · cases h
    rfl
  · split at h
    · cases h
      rfl
    · cases h

theorem extend_settle_control {m : Fragments} {part : Bytes} {fin : Bool} {message : Message}
    (h : (m.extend limit part >>= settleFragments fin) = .ok result)
    (hsome : result.2 = some message) : message.control? = none := by
  cases hext : m.extend limit part with
  | error fault =>
    rw [hext] at h
    cases h
  | ok more =>
    rw [hext] at h
    change settleFragments fin more = .ok result at h
    unfold settleFragments at h
    split at h
    · cases hcomplete : more.complete with
      | error fault => simp [hcomplete, Except.map] at h
      | ok said =>
        simp only [hcomplete, Except.map, Except.ok.injEq] at h
        subst h
        cases hsome
        exact Fragments.complete_control hcomplete
    · cases h
      cases hsome

/-- A message that is no data comes in a frame of its own kind. -/
theorem acceptFrame_control {opcode : Opcode} {message : Message}
    (h : acceptFrame limit pending f = .ok result) (hsome : result.2 = some message)
    (hcontrol : message.control? = some opcode) : f.Plain opcode := by
  obtain ⟨other, hplain, hresult⟩ := acceptFrame_eq_ok.mp h
  suffices hsame : other = opcode by rwa [hsame] at hplain
  split at hresult
  · rename_i hother
    unfold readControl at hresult
    split at hresult
    · cases hresult
    · split at hresult
      · cases hresult
      · cases other with
        | ping =>
          cases hresult
          cases hsome
          exact Option.some.inj hcontrol
        | pong =>
          cases hresult
          cases hsome
          exact Option.some.inj hcontrol
        | close =>
          cases hreply : closeReply f.payload with
          | error fault => simp [hreply, Except.map] at hresult
          | ok reply =>
            simp only [hreply, Except.map, Except.ok.injEq] at hresult
            subst hresult
            cases hsome
            exact Option.some.inj hcontrol
        | _ => cases hother
  · -- what a data frame says is data
    have hnone : message.control? = none := by
      unfold readData at hresult
      split at hresult
      · cases hresult
      · cases hresult
      · exact extend_settle_control hresult hsome
      · exact extend_settle_control hresult hsome
      · exact extend_settle_control hresult hsome
      · cases hresult
    cases hnone.symm.trans hcontrol

/-- A ping that is accepted says so. -/
theorem acceptFrame_ping (h : acceptFrame limit pending f = .ok result)
    (hcode : f.code = Opcode.ping.code) : result.2 = some (.ping f.payload) := by
  obtain ⟨opcode, hplain, hresult⟩ := acceptFrame_eq_ok.mp h
  have hsame : opcode = .ping := by
    have := hplain.code.symm.trans hcode
    cases opcode <;> first | rfl | cases this
  subst hsame
  change (readControl f .ping).map (fun message => (pending, some message)) = .ok result at hresult
  unfold readControl at hresult
  split at hresult
  · cases hresult
  · split at hresult
    · cases hresult
    · cases hresult
      rfl

/-- `base.Takes limit pending f`: the frame is taken as a part of the message `base`. -/
def Fragments.Takes (base : Fragments) (limit : Nat) (pending : Option Fragments)
    (f : WireFrame) : Prop :=
  acceptFrame limit pending f =
    (base.extend limit f.payload).bind (settleFragments f.fin)

theorem takes_first {kind : DataKind} (h : f.Plain kind.opcode) :
    (Fragments.empty kind).Takes limit none f := by
  unfold Fragments.Takes
  rw [acceptFrame_plain h]
  cases kind <;> rfl

theorem takes_next {m : Fragments} (h : f.Plain .continuation) :
    m.Takes limit (some m) f := by
  unfold Fragments.Takes
  rw [acceptFrame_plain h]
  rfl

/-- What is part of a message is its first frame, or continues the message that is open. -/
theorem readData_takes {opcode : Opcode} (hcontrol : opcode.isControl = false)
    (h : readData limit pending f opcode = .ok result) :
    (pending = none ∧ ∃ kind : DataKind, opcode = kind.opcode) ∨
      ((∃ m, pending = some m) ∧ opcode = .continuation) := by
  cases pending with
  | none =>
    cases opcode with
    | text => exact .inl ⟨rfl, .text, rfl⟩
    | binary => exact .inl ⟨rfl, .binary, rfl⟩
    | continuation => cases h
    | _ => cases hcontrol
  | some m =>
    cases opcode with
    | continuation => exact .inr ⟨⟨m, rfl⟩, rfl⟩
    | text => cases h
    | binary => cases h
    | _ => cases hcontrol

end Accepting

/-! ### One message -/

section Assembling

variable {limit : Nat} {pending : Option Fragments} {f : WireFrame} {fs : List WireFrame}
  {base : Fragments} {kind : DataKind} {payload : Bytes}

theorem assemble_ok {open? : Option Fragments} {message : Option Message}
    (h : acceptFrame limit pending f = .ok (open?, message))
    (hclose : ∀ reply, message ≠ some (.close reply)) :
    assemble limit pending (f :: fs) = completed message ++ assemble limit open? fs := by
  rw [assemble, h]
  cases message with
  | none => rfl
  | some message =>
    cases message with
    | close reply => exact absurd rfl (hclose reply)
    | _ => rfl

theorem assemble_interlude (h : f.Interlude) :
    assemble limit pending (f :: fs) = assemble limit pending fs := by
  obtain ⟨message, haccept, hcompleted, hclose⟩ := acceptFrame_interlude h
  rw [assemble_ok haccept (fun reply h => hclose reply (Option.some.inj h)), hcompleted]
  rfl

/-- The last part of a message completes it. -/
theorem assemble_last (hholds : base.Holds kind payload) (htakes : base.Takes limit pending f)
    (hfin : f.fin = true) (haccept : Acceptable limit kind (payload ++ f.payload)) :
    assemble limit pending (f :: fs) = (payload ++ f.payload) :: assemble limit none fs := by
  obtain ⟨m, hm⟩ := hholds.extend_ok haccept.1 fun h => by
    rw [(Utf8.check_iff _).mpr (haccept.2 h)]
    rfl
  have hcomplete := (hholds.extend hm).1.complete haccept.2
  have : acceptFrame limit pending f =
      .ok (none, some (.data kind (payload ++ f.payload))) := by
    rw [htakes, hm, hfin]
    simp [Except.bind, settleFragments, hcomplete, Except.map]
  rw [assemble_ok this nofun]
  rfl

/-- Any other part leaves it open. -/
theorem assemble_more (hholds : base.Holds kind payload) (htakes : base.Takes limit pending f)
    (hfin : f.fin = false) (hlen : (payload ++ f.payload).length ≤ limit)
    (htext : kind = .text → (Utf8.check .boundary (payload ++ f.payload)).isSome) :
    ∃ m : Fragments, m.Holds kind (payload ++ f.payload) ∧
      assemble limit pending (f :: fs) = assemble limit (some m) fs := by
  obtain ⟨m, hm⟩ := hholds.extend_ok hlen htext
  have : acceptFrame limit pending f = .ok (some m, none) := by
    rw [htakes, hm, hfin]
    rfl
  exact ⟨m, (hholds.extend hm).1, by rw [assemble_ok this nofun]; rfl⟩

/-- What an accepted part does. -/
theorem takes_ok {result : Option Fragments × Option Message} (hholds : base.Holds kind payload)
    (htakes : base.Takes limit pending f) (h : acceptFrame limit pending f = .ok result) :
    (f.fin = true ∧ Acceptable limit kind (payload ++ f.payload)) ∨
      (f.fin = false ∧ ∃ m : Fragments, m.Holds kind (payload ++ f.payload) ∧
        result = (some m, none)) := by
  rw [htakes] at h
  cases hm : base.extend limit f.payload with
  | error fault => simp [hm, Except.bind] at h
  | ok m =>
    obtain ⟨hm', hlen⟩ := hholds.extend hm
    simp only [hm, Except.bind] at h
    cases hfin : f.fin with
    | false =>
      rw [hfin] at h
      exact .inr ⟨rfl, m, hm', (Except.ok.inj h).symm⟩
    | true =>
      rw [hfin] at h
      cases hcomplete : m.complete with
      | error fault => simp [settleFragments, hcomplete, Except.map] at h
      | ok message => exact .inl ⟨rfl, hlen, (hm'.of_complete hcomplete).2⟩

theorem Acceptable.part (payload : Bytes) {part rest : Bytes}
    (h : Acceptable limit kind (payload ++ (part ++ rest))) :
    (payload ++ part).length ≤ limit ∧
      (kind = .text → (Utf8.check .boundary (payload ++ part)).isSome) := by
  rw [← List.append_assoc] at h
  obtain ⟨hlen, htext⟩ := h
  refine ⟨by rw [List.length_append] at hlen; omega, fun hkind => ?_⟩
  have := (Utf8.check_iff _).mpr (htext hkind)
  rw [Utf8.check_append] at this
  cases hcheck : Utf8.check .boundary (payload ++ part) with
  | none => simp [hcheck] at this
  | some state => rfl

/-- A message that is open is completed by its continuation. -/
theorem assemble_continuation {front back : List WireFrame} {m : Fragments} {rest : Bytes}
    (hcont : Continuation front rest) (hholds : m.Holds kind payload)
    (haccept : Acceptable limit kind (payload ++ rest)) :
    assemble limit (some m) (front ++ back) = (payload ++ rest) :: assemble limit none back := by
  induction hcont generalizing m payload with
  | last plain hfin => exact assemble_last hholds (takes_next plain) hfin haccept
  | more plain hfin _ ih =>
    obtain ⟨hlen, htext⟩ := Acceptable.part _ haccept
    obtain ⟨m', hm', hassemble⟩ := assemble_more hholds (takes_next plain) hfin hlen htext
    rw [List.cons_append, hassemble]
    rw [← List.append_assoc] at haccept ⊢
    exact ih hm' haccept
  | between h _ ih =>
    rw [List.cons_append, assemble_interlude h]
    exact ih hholds haccept

/-- The frames of a whole message give its payload. -/
theorem assemble_whole {front back : List WireFrame} (h : WholeMessage limit front payload) :
    assemble limit none (front ++ back) = payload :: assemble limit none back := by
  cases h with
  | single plain hfin accepted =>
    exact assemble_last (Fragments.empty_holds _) (takes_first plain) hfin accepted
  | fragmented plain hfin rest accepted =>
    obtain ⟨hlen, htext⟩ := Acceptable.part [] accepted
    obtain ⟨m, hm, hassemble⟩ :=
      assemble_more (Fragments.empty_holds _) (takes_first plain) hfin hlen htext
    rw [List.cons_append, hassemble]
    exact assemble_continuation rest hm accepted

/-- A message that is open gives nothing unless it is continued to its end. -/
theorem assemble_open (fs : List WireFrame) {m : Fragments} (hholds : m.Holds kind payload) :
    assemble limit (some m) fs = [] ∨
      ∃ front back rest, fs = front ++ back ∧ Continuation front rest ∧
        Acceptable limit kind (payload ++ rest) := by
  induction fs generalizing m payload with
  | nil => exact .inl rfl
  | cons f fs ih =>
    cases haccept : acceptFrame limit (some m) f with
    | error fault => exact .inl (by rw [assemble, haccept])
    | ok result =>
      rcases acceptFrame_cases haccept with hbetween | ⟨reply, hreply⟩ | ⟨opcode, hplain, hdata, hread⟩
      · rw [assemble_interlude hbetween]
        rcases ih hholds with hnil | ⟨front, back, rest, rfl, hcont, hok⟩
        · exact .inl hnil
        · exact .inr ⟨f :: front, back, rest, rfl, .between hbetween hcont, hok⟩
      · obtain ⟨open?, message⟩ := result
        cases hreply
        exact .inl (by rw [assemble, haccept])
      · rcases readData_takes hdata hread with ⟨hnone, -⟩ | ⟨-, rfl⟩
        · cases hnone
        · rcases takes_ok hholds (takes_next hplain) haccept with
            ⟨hfin, hok⟩ | ⟨hfin, m', hm', rfl⟩
          · exact .inr ⟨[f], fs, f.payload, rfl, .last hplain hfin, hok⟩
          · rw [assemble_ok haccept nofun]
            rcases ih hm' with hnil | ⟨front, back, rest, rfl, hcont, hok⟩
            · exact .inl hnil
            · rw [List.append_assoc] at hok
              exact .inr ⟨f :: front, back, f.payload ++ rest, rfl, .more hplain hfin hcont, hok⟩

/-! ### Whole conversations -/

/-- Frames that begin with no ping or pong and with no message give nothing. -/
theorem Conversation.of_nil (h : assemble limit none fs = [])
    (hinterlude : ∀ f rest, fs = f :: rest → ¬ f.Interlude) : Conversation limit fs [] := by
  refine .ended hinterlude ?_
  rintro front back payload rfl hwhole
  rw [assemble_whole hwhole] at h
  cases h

/-- Frames that give something begin with a ping or a pong, or with a whole message. -/
theorem assemble_start (hne : assemble limit none fs ≠ []) :
    (∃ f rest, fs = f :: rest ∧ f.Interlude) ∨
      ∃ front back payload, fs = front ++ back ∧ WholeMessage limit front payload := by
  cases fs with
  | nil => exact absurd rfl hne
  | cons f fs =>
    cases haccept : acceptFrame limit none f with
    | error fault => exact absurd (by rw [assemble, haccept]) hne
    | ok result =>
      rcases acceptFrame_cases haccept with
        hbetween | ⟨reply, hreply⟩ | ⟨opcode, hplain, hdata, hread⟩
      · exact .inl ⟨f, fs, rfl, hbetween⟩
      · obtain ⟨open?, message⟩ := result
        cases hreply
        exact absurd (by rw [assemble, haccept]) hne
      · rcases readData_takes hdata hread with ⟨-, kind, rfl⟩ | ⟨⟨m, hsome⟩, -⟩
        · rcases takes_ok (Fragments.empty_holds kind) (takes_first hplain) haccept with
            ⟨hfin, hok⟩ | ⟨hfin, m, hm, rfl⟩
          · exact .inr ⟨[f], fs, f.payload, rfl, .single hplain hfin hok⟩
          · rw [assemble_ok haccept nofun] at hne
            rcases assemble_open fs hm with
              hnil | ⟨front, back, rest, rfl, hcont, hok⟩
            · exact absurd hnil hne
            · exact .inr ⟨f :: front, back, f.payload ++ rest, rfl,
                .fragmented hplain hfin hcont hok⟩
        · cases hsome

/-- What is assembled from frames are the messages of their conversation. -/
theorem conversation_assemble (limit : Nat) (fs : List WireFrame) :
    Conversation limit fs (assemble limit none fs) := by
  -- on the number of frames, since a message may take several at once
  induction hn : fs.length using Nat.strongRecOn generalizing fs with
  | _ n ih =>
    subst hn
    by_cases hnil : assemble limit none fs = []
    · by_cases hbetween : ∃ f rest, fs = f :: rest ∧ f.Interlude
      · obtain ⟨f, rest, rfl, hbetween⟩ := hbetween
        rw [assemble_interlude hbetween]
        exact .between hbetween (ih rest.length (Nat.lt_succ_self _) rest rfl)
      · rw [hnil]
        exact .of_nil hnil fun f rest heq hf => hbetween ⟨f, rest, heq, hf⟩
    · rcases assemble_start hnil with ⟨f, rest, rfl, hbetween⟩ | ⟨front, back, payload, rfl, hwhole⟩
      · rw [assemble_interlude hbetween]
        exact .between hbetween (ih rest.length (Nat.lt_succ_self _) rest rfl)
      · have hless : back.length < (front ++ back).length := by
          have : 0 < front.length := by
            cases hwhole <;> exact Nat.zero_lt_succ _
          rw [List.length_append]
          omega
        rw [assemble_whole hwhole]
        exact .message hwhole (ih back.length hless back rfl)

/-- The messages of a conversation are what is assembled from its frames. -/
theorem conversation_iff {payloads : List Bytes} :
    Conversation limit fs payloads ↔ payloads = assemble limit none fs := by
  constructor
  · intro h
    induction h with
    | between h _ ih => rw [assemble_interlude h, ih]
    | message h _ ih => rw [assemble_whole h, ih]
    | @ended fs hinterlude hmessage =>
      -- frames that give something would have begun with one of the two
      refine Classical.byContradiction fun hne => ?_
      rcases assemble_start (Ne.symm hne) with
        ⟨f, rest, heq, hf⟩ | ⟨front, back, payload, heq, hwhole⟩
      · exact hinterlude f rest heq hf
      · exact hmessage front back payload heq hwhole
  · rintro rfl
    exact conversation_assemble limit fs

end Assembling

end Carrier
