import Carrier.Proofs.Relay.Lifetime
import Carrier.Proofs.Relay.Waiting
import Carrier.Proofs.Stdio.Phases

/-!
# A tunnel is a relay behind a dial

- `Relay.told`, `Stdio.told`: what both sides can tell of a step.
- `Relay.session_early`: early writes and the clock before a relay begins.
- `Stdio.BehindDial`: what a tunnel does, whatever becomes of its dial.
- `Stdio.relay_behind_dial`: so it is for options that can be dialed.
- `Stdio.released_past_limit`: time that passes before the dial succeeds does not count.
-/

namespace Carrier

/-! ### What has waited for a relay -/

namespace Relay

/-- What both sides can tell of a step: what was sent to them, how often the application's side
has been shut down, and what is reported. -/
def told (x : Relay × Traffic) : Traffic × Nat × Option (Except TunnelError Summary) :=
  (x.2, x.1.shutdowns, x.1.result?)

/-- What the application writes waits until it is read. -/
theorem foldl_absorb_unread (r : Relay) (early : List Event) :
    (early.foldl absorb r).app.unread = r.app.unread ++ early.filterMap Event.chunk? := by
  induction early generalizing r with
  | nil => simp
  | cons e es ih =>
    rw [List.foldl_cons, ih]
    cases e with
    | localWrite data => simp [absorb, Event.chunk?]
    | remoteBytes data =>
      simp only [absorb]
      split <;> rfl
    | _ => rfl

section Early

variable {early : List Event}
  (hearly : ∀ e ∈ early, (∃ data, e = .localWrite data) ∨ e.isAdvance = true)

include hearly

/-- Of early writes and the clock only the writes wait. -/
theorem early_waits {e : Event} (he : e ∈ early.filter (!·.isAdvance)) :
    ∃ data, e = .localWrite data := by
  obtain ⟨hmem, hclock⟩ := List.mem_filter.mp he
  rcases hearly e hmem with hwrite | hadvance
  · exact hwrite
  · simp [hadvance] at hclock

/-- A relay with time left that begins with early writes does what it would have done with one
after the other. -/
theorem session_early_quiet {r : Relay} (h : Quiet r) (hopen : r.app.readEnd = none)
    (late : List Event) :
    ((early.filter (!·.isAdvance)).foldl absorb r).session late
      = r.session (early.filter (!·.isAdvance) ++ late) := by
  refine h.session_waiting hopen (fun e he => ?_) (fun e he => ?_) late
  · obtain ⟨data, rfl⟩ := early_waits hearly he
    rfl
  · obtain ⟨data, rfl⟩ := early_waits hearly (List.dropLast_subset _ he)
    rfl

/-- A relay without a limit that begins with early writes does what it would have done if it had
begun before them. -/
theorem session_early_unlimited (limits : Limits) (late : List Event) :
    let free : Relay := { limits := limits }
    let released := ((early.filter (!·.isAdvance)).foldl absorb free).session late
    let atOnce := free.session (early ++ late)
    released.1.cause = atOnce.1.cause ∧ released.2 = atOnce.2 ∧
      released.1.result? = atOnce.1.result? := by
  intro free released atOnce
  let waits := early.filter (!·.isAdvance)
  have hquiet : free.Quiet := ⟨rfl, rfl, rfl, nofun⟩
  have hreleased : released = free.session (waits ++ late) :=
    session_early_quiet hearly hquiet rfl late
  -- what is left differs in the clock alone
  have hfilter : (waits ++ late).filter (!·.isAdvance) = (early ++ late).filter (!·.isAdvance) := by
    simp [waits]
  have hleft := session_timeless (r := free) rfl rfl (waits ++ late)
  have hright := session_timeless (r := free) rfl rfl (early ++ late)
  rw [hfilter] at hleft
  rw [hreleased]
  exact ⟨hleft.cause.trans hright.cause.symm, hleft.traffic.trans hright.traffic.symm,
    hleft.result.trans hright.result.symm⟩

/-- Early writes are sent when the relay begins as they would have been sent one by one, unless
the relay that began before them has come to its limit. -/
theorem session_early (limits : Limits) (deadline : Option Duration) (late : List Event) :
    let begun : Relay := { limits := limits, deadline := deadline }
    let released := ((early.filter (!·.isAdvance)).foldl absorb begun).session late
    let atOnce := begun.session (early ++ late)
    (∀ limit, atOnce.1.result? ≠ some (.error (.deadlineExceeded limit))) →
      released.2 = atOnce.2 ∧ released.1.result? = atOnce.1.result? := by
  intro begun released atOnce hlimit
  let waits := early.filter (!·.isAdvance)
  let free : Relay := { limits := limits }
  have hstands : ∀ e ∈ waits, e.isAdvance = false := by
    intro e he
    obtain ⟨data, rfl⟩ := early_waits hearly he
    rfl
  have hwaited : waits.foldl absorb begun = (waits.foldl absorb free).clocked deadline ⟨0⟩ :=
    free.foldl_absorb_clocked deadline ⟨0⟩ hstands
  have hunlimited : (waits.foldl absorb begun).unlimited = waits.foldl absorb free := by
    rw [hwaited]
    exact (free.foldl_absorb_clocked none ⟨0⟩ hstands).symm
  have hrun : (waits.foldl absorb begun).cause = none := by
    rw [foldl_absorb_eq]
  cases session_bounded (r := begun) rfl (early ++ late) with
  | expired hdeadline hfront hgoes hle hcause =>
    exact absurd (result?_deadline.mpr hcause) (hlimit _)
  | inTime htime hatOnce =>
    obtain ⟨-, htraffic, hresult⟩ := session_early_unlimited hearly limits late
    replace hatOnce : atOnce = bounded deadline (free.session (early ++ late)) := hatOnce
    cases session_bounded hrun late with
    | inTime _ hreleased =>
      rw [hunlimited] at hreleased
      replace hreleased : released = bounded _ ((waits.foldl absorb free).session late) := hreleased
      rw [hatOnce, hreleased, result?_bounded, result?_bounded]
      exact ⟨htraffic, hresult⟩
    | @expired front limit hdeadline hfront hgoes hle hcause =>
      -- the relay that began at once was in time with the same events, and its clock was ahead
      rw [hunlimited] at hgoes
      rw [hwaited] at hdeadline hle
      obtain ⟨hcauses, -, -⟩ := session_early_unlimited hearly limits front
      have hahead : limit ≤ (⟨0⟩ : Duration) + Event.elapsed (early ++ front) := by
        refine Duration.le_trans hle ?_
        show (⟨0⟩ : Duration) + Event.elapsed front ≤ _
        rw [Duration.zero_add, Duration.zero_add, Event.elapsed_append]
        exact Nat.le_add_left _ _
      exact absurd hahead (htime (early ++ front) ((List.prefix_append_right_inj early).mpr hfront)
        (hcauses.symm.trans hgoes) limit hdeadline)

end Early

end Relay

/-! ### Behind a dial -/

namespace Stdio

/-- What both sides can tell of a step of a tunnel. -/
def told (x : Stdio × Traffic × List LogRecord) :
    Traffic × Nat × Option (Except TunnelError Summary) :=
  (x.2.1, x.1.relay.shutdowns, x.1.result?)

/-- What nobody can tell anything of. -/
def untold : Traffic × Nat × Option (Except TunnelError Summary) := (Traffic.none, 0, none)

/-- What a tunnel does, whatever becomes of its dial. -/
structure BehindDial (options : DialOptions) (limits : Limits) (deadline : Option Duration) :
    Prop where
  /-- If the dial succeeds at once, each step is that of a relay. -/
  atOnce : ∀ script : List Event,
    let tunnel := start options limits deadline .established
    let relay := Relay.start limits deadline
    told tunnel = Relay.told relay ∧
      (tunnel.1.states (script.map .relay)).map told = (relay.1.states script).map Relay.told
  /-- While it is pending nothing is sent or reported, nothing that the application writes is read,
  and no time is counted. -/
  pending : ∀ waiting : List StdioEvent, (∀ e ∈ waiting, e.decides = false) →
    let tunnel := start options limits deadline .pending
    let relay := (tunnel.1.run waiting).1.relay
    told tunnel = untold ∧ (∀ x ∈ tunnel.1.states waiting, told x = untold) ∧
      relay.app.unread = (waiting.filterMap (·.waits?)).filterMap Event.chunk? ∧
      relay.toRemote = 0 ∧ relay.toLocal = 0 ∧ relay.elapsed = ⟨0⟩
  /-- When it succeeds a relay begins with what has waited. -/
  released : ∀ waiting late : List StdioEvent, (∀ e ∈ waiting, e.decides = false) →
    let begun : Relay := { limits := limits, deadline := deadline }
    let relay := ((waiting.filterMap (·.waits?)).foldl Relay.absorb begun).session
      (late.filterMap (·.noticed?))
    (start options limits deadline .pending).1.run (waiting ++ .established :: late)
      = (⟨options, .relaying, relay.1⟩, relay.2)
  /-- If only writes and the clock came before, the tunnel sends and reports then what it would
  have if the dial had succeeded at once, unless that tunnel comes to its limit; and in any case
  what it would have without the time that passed, unless there is no time allowed at all. -/
  early : ∀ early late : List Event,
    (∀ e ∈ early, (∃ data, e = .localWrite data) ∨ e.isAdvance = true) →
    let behind (script : List StdioEvent) := (start options limits deadline .pending).1.run script
    let atOnce (script : List Event) :=
      let tunnel := start options limits deadline .established
      let rest := tunnel.1.run (script.map .relay)
      (rest.1, tunnel.2.1.followedBy rest.2)
    let here := behind (early.map .relay ++ .established :: late.map .relay)
    ((∀ limit, (atOnce (early ++ late)).1.result? ≠ some (.error (.deadlineExceeded limit))) →
      here.2 = (atOnce (early ++ late)).2 ∧
        here.1.result? = (atOnce (early ++ late)).1.result?) ∧
    ((∀ limit, deadline = some limit → ¬ limit ≤ ⟨0⟩) →
      here = atOnce (early.filter (!·.isAdvance) ++ late))
  /-- If the tunnel is called off before, it reports that, and nothing was or is sent. -/
  cancelled : ∀ waiting more : List StdioEvent, (∀ e ∈ waiting, e.decides = false) →
    let last := (start options limits deadline .pending).1.run (waiting ++ .relay .cancel :: more)
    last.1.result? = some (.error .cancelled) ∧ last.2 = Traffic.none ∧
      last.1.relay.toRemote = 0 ∧ last.1.relay.toLocal = 0
  /-- If the dial fails, at once or later, the tunnel reports why, and nothing was or is sent. -/
  failed : ∀ (cause : DialError) (waiting more : List StdioEvent),
    (∀ e ∈ waiting, e.decides = false) →
    let first := start options limits deadline (.failed cause)
    let behind := (start options limits deadline .pending).1.run
      (waiting ++ .dialFailed cause :: more)
    told first = (Traffic.none, 0, some (.error (.dial cause))) ∧
      first.1.run more = (first.1, Traffic.none) ∧
      behind.1.result? = some (.error (.dial cause)) ∧ behind.2 = Traffic.none ∧
      behind.1.relay.toRemote = 0 ∧ behind.1.relay.toLocal = 0

/-! ### What becomes of the dial -/

theorem noticed_map (late : List Event) :
    (late.map StdioEvent.relay).filterMap (·.noticed?) = late := by
  rw [List.filterMap_map]
  exact List.filterMap_some

/-- Of early writes and the clock only the writes wait, and the dial is still pending. -/
theorem early_map {early : List Event}
    (hearly : ∀ e ∈ early, (∃ data, e = .localWrite data) ∨ e.isAdvance = true) :
    (early.map StdioEvent.relay).filterMap (·.waits?) = early.filter (!·.isAdvance) ∧
      ∀ e ∈ early.map StdioEvent.relay, e.decides = false := by
  have hkinds : ∀ e ∈ early, (StdioEvent.relay e).decides = false ∧
      (StdioEvent.relay e).waits? = Option.guard (!·.isAdvance) e := by
    intro e he
    rcases hearly e he with ⟨data, rfl⟩ | hadvance
    · exact ⟨rfl, rfl⟩
    · cases e <;> first | exact ⟨rfl, rfl⟩ | cases hadvance
  constructor
  · rw [List.filterMap_map, ← List.filterMap_eq_filter]
    exact List.filterMap_congr fun e he => (hkinds e he).2
  · intro e he
    obtain ⟨event, hevent, rfl⟩ := List.mem_map.mp he
    exact (hkinds event hevent).1

/-- A tunnel with options that can be dialed is a relay behind a dial. -/
theorem relay_behind_dial {options : DialOptions} (hvalid : options.validate = .ok ())
    (limits : Limits) (deadline : Option Duration) : BehindDial options limits deadline := by
  let begun : Relay := { limits := limits, deadline := deadline }
  have hestablished : start options limits deadline .established
      = (⟨options, .relaying, begun.settle.1⟩, begun.settle.2, [opened options]) :=
    start_valid hvalid limits deadline .established
  have hpending : start options limits deadline .pending
      = (⟨options, .connecting, begun⟩, Traffic.none, []) :=
    start_valid hvalid limits deadline .pending
  have hfailed (cause : DialError) : start options limits deadline (.failed cause)
      = (fail ⟨options, .connecting, begun⟩ (.dial cause), Traffic.none, []) :=
    start_valid hvalid limits deadline (.failed cause)
  have hcounts (waits : List Event) : (waits.foldl Relay.absorb begun).toRemote = 0 ∧
      (waits.foldl Relay.absorb begun).toLocal = 0 := by
    rw [Relay.foldl_absorb_eq]
    exact ⟨rfl, rfl⟩
  refine ⟨?atOnce, ?pending, ?released, ?ahead, ?cancelled, ?failed⟩
  case atOnce =>
    intro script tunnel relay
    have htunnel : tunnel = _ := hestablished
    rw [htunnel, states_relaying, List.map_map]
    exact ⟨rfl, rfl⟩
  case pending =>
    intro waiting hwaits tunnel relay
    have htunnel : tunnel = _ := hpending
    have hrelay : relay = (waiting.filterMap (·.waits?)).foldl Relay.absorb begun := by
      show (tunnel.1.run waiting).1.relay = _
      rw [htunnel, run_waiting options begun hwaits]
    have hclock := begun.foldl_absorb_clocked deadline ⟨0⟩
      (StdioEvent.waits_stand waiting)
    rw [hrelay, htunnel]
    refine ⟨rfl, fun x hx => ?_, ?_, (hcounts _).1, (hcounts _).2, congrArg Relay.elapsed hclock⟩
    · obtain ⟨hphase, hshutdowns, hnothing⟩ := states_waiting options begun hwaits x hx
      simp only [told, untold, hnothing, hshutdowns, result?, hphase]
      rfl
    · exact begun.foldl_absorb_unread _
  case released =>
    intro waiting late hwaits fresh relay
    rw [hpending, run_append, run_waiting options begun hwaits, run_established]
    rfl
  case ahead =>
    intro early late hearly behind atOnce here
    obtain ⟨hwaits, hdecides⟩ := early_map hearly
    have hhere : here = (⟨options, .relaying,
        (((early.filter (!·.isAdvance)).foldl Relay.absorb begun).session late).1⟩,
        (((early.filter (!·.isAdvance)).foldl Relay.absorb begun).session late).2) := by
      show (start options limits deadline .pending).1.run _ = _
      rw [hpending, run_append, run_waiting options begun hdecides, run_established, hwaits,
        noticed_map]
      rfl
    have hatOnce (script : List Event) : atOnce script
        = (⟨options, .relaying, (begun.session script).1⟩, (begun.session script).2) := by
      show ((start options limits deadline .established).1.run _ |>.1, _) = _
      rw [hestablished, run_relaying, noticed_map]
      rfl
    rw [hhere, hatOnce, hatOnce]
    refine ⟨Relay.session_early hearly limits deadline late, fun htime => ?_⟩
    have hquiet : begun.Quiet := ⟨rfl, rfl, rfl, htime⟩
    rw [Relay.session_early_quiet hearly hquiet rfl]
  case cancelled =>
    intro waiting more hwaits last
    have hlast := run_given_up options begun hwaits (.relay .cancel) .cancelled (fun w => rfl) more
    have htunnel : last = run ⟨options, .connecting, begun⟩ (waiting ++ .relay .cancel :: more) := by
      show (start options limits deadline .pending).1.run _ = _
      rw [hpending]
    rw [htunnel, hlast]
    exact ⟨rfl, rfl, hcounts _⟩
  case failed =>
    intro cause waiting more hwaits first behind
    have hfirst : first = _ := hfailed cause
    have hlast := run_given_up options begun hwaits (.dialFailed cause) (.dial cause)
      (fun w => rfl) more
    have htunnel : behind = run ⟨options, .connecting, begun⟩ (waiting ++ .dialFailed cause :: more) := by
      show (start options limits deadline .pending).1.run _ = _
      rw [hpending]
    rw [hfirst, htunnel, hlast]
    exact ⟨rfl, run_failed rfl more, rfl, rfl, hcounts _⟩

/-- A tunnel whose dial takes half a second, with a limit of one: what the application wrote in
between is sent as if the dial had taken no time. -/
theorem relay_behind_dial_localhost :
    let options : DialOptions := { origin := "ws://localhost" }
    let early : List Event := [.localWrite [97], .advance (Duration.millis 500), .localWrite [98]]
    let late : List Event := [.remoteBytes [0x89, 0], .localEnd .eof]
    let limit := some (Duration.seconds 1)
    let here := (start options {} limit .pending).1.run
      (early.map .relay ++ .established :: late.map .relay)
    let tunnel := start options {} limit .established
    let there := tunnel.1.run ((early ++ late).map .relay)
    options.validate = .ok () ∧
      (∀ e ∈ early, (∃ data, e = .localWrite data) ∨ e.isAdvance = true) ∧
      there.1.result? = some (.ok ⟨.localClosed, 2, 0⟩) ∧
      here.2.frames = (tunnel.2.1.followedBy there.2).frames := by
  intro options early late limit here tunnel there
  have hvalid : options.validate = .ok () := by decide +kernel
  have hearly : ∀ e ∈ early, (∃ data, e = .localWrite data) ∨ e.isAdvance = true := by
    simp [early, Event.isAdvance]
  have hended : there.1.result? = some (.ok ⟨.localClosed, 2, 0⟩) := by decide +kernel
  refine ⟨hvalid, hearly, hended, ?_⟩
  have hsame := ((relay_behind_dial hvalid {} limit).early early late hearly).1 fun span => by
    show there.1.result? ≠ _
    rw [hended]
    nofun
  exact congrArg Traffic.frames hsame.1

/-- The frames that are sent from the success of a dial on are not those of a tunnel whose dial has
succeeded at once, when the time allowed to that one is over before. -/
theorem released_past_limit :
    ¬ ∀ (options : DialOptions) (limits : Limits) (deadline : Option Duration)
      (early late : List Event), options.validate = .ok () →
      (∀ e ∈ early, (∃ data, e = .localWrite data) ∨ e.isAdvance = true) →
      let here := (start options limits deadline .pending).1.run
        (early.map .relay ++ .established :: late.map .relay)
      let tunnel := start options limits deadline .established
      let there := tunnel.1.run ((early ++ late).map .relay)
      here.2.frames = (tunnel.2.1.followedBy there.2).frames := by
  intro h
  let early : List Event := [.advance (Duration.seconds 2), .localWrite [97]]
  have hvalid : ({ origin := "ws://localhost" } : DialOptions).validate = .ok () := by
    decide +kernel
  have hearly : ∀ e ∈ early, (∃ data, e = .localWrite data) ∨ e.isAdvance = true := by
    simp [early, Event.isAdvance]
  have hsame := h { origin := "ws://localhost" } {} (some (Duration.seconds 1)) early [] hvalid
    hearly
  -- a data frame on the one side, a close frame on the other
  revert hsame
  decide +kernel

end Stdio

end Carrier
