import Carrier.Proofs.Relay.Clock

/-!
# How long a relay lasts

A relay with a limit does what it would do without one, until the time allowed is over. Then it
ends, unless it has ended before.

- `Relay.unlimited`: a relay that may last for ever.
- `Relay.Bounded`, `Relay.session_bounded`: a session with a limit beside the one without.
- `Lifetime`: what a limit comes to at some moment.
- `Relay.session_lifetime`: every session has such a lifetime.
- `Relay.lifetime_waiting`: so has one that begins with what has waited.
-/

namespace Carrier

theorem Event.elapsed_append (es fs : List Event) :
    elapsed (es ++ fs) = elapsed es + elapsed fs := by
  induction fs using List.reverseRecOn with
  | nil =>
    rw [List.append_nil]
    rfl
  | append_singleton fs f ih =>
    rw [← List.append_assoc, elapsed_concat, ih, Duration.add_assoc, ← elapsed_concat]

/-- The clock of a script never goes back. -/
theorem Event.elapsed_mono {front es : List Event} (h : front <+: es) :
    elapsed front ≤ elapsed es := by
  obtain ⟨rest, rfl⟩ := h
  rw [elapsed_append]
  exact Duration.le_add_right _ _

namespace Relay

/-- The relay if it may last for ever. -/
def unlimited (r : Relay) : Relay := { r with deadline := none }

/-- A relay and its traffic, with a limit that it has not met. -/
def bounded (deadline : Option Duration) (x : Relay × Traffic) : Relay × Traffic :=
  ({ x.1 with deadline := deadline }, x.2)

theorem result?_bounded (deadline : Option Duration) (x : Relay × Traffic) :
    (bounded deadline x).1.result? = x.1.result? := rfl

/-! ### Beside the relay without a limit -/

/-- A relay whose time is over ends, if the one without a limit goes on; otherwise both do the
same. -/
theorem settle_bounded {r : Relay} (hrun : r.cause = none) :
    (r.unlimited.settle.1.cause = none ∧ ∃ limit, r.deadline = some limit ∧ limit ≤ r.elapsed ∧
        r.settle.1.cause = some (.deadline limit)) ∨
      ((r.unlimited.settle.1.cause = none →
          ∀ limit, r.deadline = some limit → ¬ limit ≤ r.elapsed) ∧
        r.settle = bounded r.deadline r.unlimited.settle) := by
  have hkeeps := (exchange_moves hrun).keeps
  have hfree : r.unlimited.settle = reclock none r.elapsed r.exchange := by
    have hother : r.unlimited.cause = none := hrun
    rw [settle_unlimited hother rfl]
    exact r.exchange_clocked none r.elapsed
  have hback : bounded r.deadline r.unlimited.settle = r.exchange := by
    rw [hfree, ← hkeeps.deadline, ← hkeeps.elapsed]
    rfl
  have hcause : r.unlimited.settle.1.cause = r.exchange.1.cause := by rw [hfree]; rfl
  rw [hback, hcause, settle_exchange]
  cases hend : r.exchange.1.cause with
  | some cause =>
    refine .inr ⟨nofun, ?_⟩
    unfold andThen
    simp only [hend]
  | none =>
    by_cases hdue : ∃ limit, r.deadline = some limit ∧ limit ≤ r.elapsed
    · obtain ⟨limit, hlimit, hle⟩ := hdue
      refine .inl ⟨rfl, limit, hlimit, hle, ?_⟩
      have hexpire : r.exchange.1.expire = r.exchange.1.finish (.deadline limit) := by
        unfold expire
        rw [hkeeps.deadline, hlimit, hkeeps.elapsed]
        exact if_pos hle
      unfold andThen
      simp only [hend, hexpire, finish_cause]
    · have htime : ∀ limit, r.deadline = some limit → ¬ limit ≤ r.elapsed :=
        fun limit hlimit hle => hdue ⟨limit, hlimit, hle⟩
      have hexpire : r.exchange.1.expire = (r.exchange.1, Traffic.none) := by
        refine expire_inTime ?_
        rw [hkeeps.deadline, hkeeps.elapsed]
        exact htime
      refine .inr ⟨fun _ => htime, ?_⟩
      unfold andThen
      simp only [hend, hexpire, Traffic.followedBy_none]

theorem unlimited_absorb (r : Relay) (e : Event) :
    (r.absorb e).unlimited = r.unlimited.absorb e := by
  have h := r.absorb_clocked none r.elapsed e
  rw [← absorb_elapsed] at h
  exact h.symm

/-- An event ends a relay whose time is over with it, if the one without a limit goes on; otherwise
it does the same to both. -/
theorem step_bounded {r : Relay} (hrun : r.cause = none) (e : Event) :
    ((r.unlimited.step e).1.cause = none ∧ ∃ limit, r.deadline = some limit ∧
        limit ≤ r.elapsed + e.span ∧ (r.step e).1.cause = some (.deadline limit)) ∨
      (((r.unlimited.step e).1.cause = none →
          ∀ limit, r.deadline = some limit → ¬ limit ≤ r.elapsed + e.span) ∧
        r.step e = bounded r.deadline (r.unlimited.step e)) := by
  have hother : r.unlimited.cause = none := hrun
  by_cases he : e = .cancel
  · subst he
    rw [step_cancel hrun, step_cancel hother]
    exact .inr ⟨nofun, rfl⟩
  · have habsorbed : (r.absorb e).cause = none := by rw [absorb_cause, hrun]
    have h := settle_bounded habsorbed
    rw [unlimited_absorb, absorb_deadline, absorb_elapsed] at h
    rwa [step_settle hrun he, step_settle hother he]

/-- Whether the time allowed to a relay has been over when a session without a limit still went
on, and what the session is then. -/
inductive Bounded (r : Relay) (script : List Event) : Prop where
  /-- It has not: the sessions are the same. -/
  | inTime
    (htime : ∀ front, front <+: script → (r.unlimited.session front).1.cause = none →
      ∀ limit, r.deadline = some limit → ¬ limit ≤ r.elapsed + Event.elapsed front)
    (hsame : r.session script = bounded r.deadline (r.unlimited.session script))
  /-- It has: the session with a limit has ended for it. -/
  | expired {front : List Event} {limit : Duration} (hlimit : r.deadline = some limit)
    (hfront : front <+: script) (hfree : (r.unlimited.session front).1.cause = none)
    (hle : limit ≤ r.elapsed + Event.elapsed front)
    (hcause : (r.session script).1.cause = some (.deadline limit))

/-- The clock of a relay counts from its beginning. -/
theorem session_elapsed {r : Relay} (hrun : r.cause = none) {script : List Event}
    (h : (r.session script).1.cause = none) :
    (r.session script).1.elapsed = r.elapsed + Event.elapsed script := by
  induction script using List.reverseRecOn with
  | nil =>
    rw [session_nil, (settle_moves hrun).keeps.elapsed]
    rfl
  | append_singleton es e ih =>
    rw [session_snoc] at h ⊢
    by_cases hes : (r.session es).1.cause = none
    · by_cases he : e = .cancel
      · rw [he, step_cancel hes, finish_cause] at h
        cases h
      · have habsorbed : ((r.session es).1.absorb e).cause = none := by rw [absorb_cause, hes]
        rw [step_settle hes he, (settle_moves habsorbed).keeps.elapsed, absorb_elapsed, ih hes,
          Event.elapsed_concat, Duration.add_assoc]
    · rw [step_ended hes] at h
      exact absurd h hes

theorem session_deadline {r : Relay} (hrun : r.cause = none) (script : List Event) :
    (r.session script).1.deadline = r.deadline := by
  induction script using List.reverseRecOn with
  | nil => rw [session_nil, (settle_moves hrun).keeps.deadline]
  | append_singleton es e ih => rw [session_snoc, step_deadline, ih]

/-- One more event in a session that has been in time. -/
theorem Bounded.concat {r : Relay} (hrun : r.cause = none) {es : List Event} (h : r.Bounded es)
    (e : Event) : r.Bounded (es ++ [e]) := by
  cases h with
  | expired hlimit hfront hfree hle hcause =>
    refine .expired hlimit (hfront.trans (List.prefix_append es [e])) hfree hle ?_
    rw [session_snoc, step_ended (by rw [hcause]; nofun)]
    exact hcause
  | inTime htime hsame =>
    have hfree : (r.session es).1.unlimited = (r.unlimited.session es).1 := by
      have hnone : (r.unlimited.session es).1.deadline = none :=
        session_deadline (r := r.unlimited) hrun es
      rw [hsame]
      show { (r.unlimited.session es).1 with deadline := none } = _
      rw [← hnone]
    have htraffic : (r.session es).2 = (r.unlimited.session es).2 := by
      rw [hsame]
      rfl
    -- only the whole script is new among its beginnings
    have htime' (hnow : (r.unlimited.session (es ++ [e])).1.cause = none →
        ∀ limit, r.deadline = some limit → ¬ limit ≤ r.elapsed + Event.elapsed (es ++ [e])) :
        ∀ front, front <+: es ++ [e] → (r.unlimited.session front).1.cause = none →
          ∀ limit, r.deadline = some limit → ¬ limit ≤ r.elapsed + Event.elapsed front := by
      intro front hfront hgoes
      rcases List.prefix_concat_iff.mp hfront with rfl | hbefore
      · exact hnow hgoes
      · exact htime front hbefore hgoes
    by_cases hes : (r.session es).1.cause = none
    · have hstep := step_bounded hes e
      rw [hfree, session_deadline hrun, session_elapsed hrun hes, Duration.add_assoc,
        ← Event.elapsed_concat] at hstep
      have hnext : (r.unlimited.session (es ++ [e])).1.cause
          = ((r.unlimited.session es).1.step e).1.cause := by rw [session_snoc]
      rcases hstep with ⟨hgoes, limit, hlimit, hle, hcause⟩ | ⟨hnow, hgo⟩
      · refine .expired hlimit (List.prefix_refl _) (hnext.trans hgoes) hle ?_
        rw [session_snoc]
        exact hcause
      · refine .inTime (htime' fun hgoes => hnow (hnext.symm.trans hgoes)) ?_
        rw [session_snoc, session_snoc, hgo, htraffic]
        rfl
    · have hended : (r.unlimited.session es).1.cause ≠ none := by
        rw [← hfree]
        exact hes
      refine .inTime (htime' fun hgoes => ?_) ?_
      · rw [session_snoc, step_ended hended] at hgoes
        exact absurd hgoes hended
      · rw [session_snoc, session_snoc, step_ended hes, step_ended hended,
          Traffic.followedBy_none, Traffic.followedBy_none]
        exact hsame

/-- A session with a limit goes like the one without, until the time allowed is over. -/
theorem session_bounded {r : Relay} (hrun : r.cause = none) (script : List Event) :
    r.Bounded script := by
  induction script using List.reverseRecOn with
  | nil =>
    rcases settle_bounded hrun with ⟨hfree, limit, hlimit, hle, hcause⟩ | ⟨htime, hsame⟩
    · rw [← session_nil] at hfree hcause
      exact .expired hlimit (List.prefix_refl []) hfree hle hcause
    · refine .inTime (fun front hfront hfree limit hlimit => ?_) ?_
      · rw [List.prefix_nil.mp hfront] at hfree ⊢
        rw [session_nil] at hfree
        exact htime hfree limit hlimit
      · rw [session_nil, session_nil, hsame]
  | append_singleton es e ih => exact ih.concat hrun e

/-! ### Lifetimes -/

/-- A relay without a limit never ends for one. -/
theorem session_unlimited_cause {r : Relay} (hrun : r.cause = none) (hlimit : r.deadline = none)
    (script : List Event) (limit : Duration) :
    (r.session script).1.cause ≠ some (.deadline limit) := by
  refine (session_induction (P := fun _ q _ => q.deadline = none ∧ q.cause ≠ some (.deadline limit))
    hrun ⟨hlimit, ?_⟩ ?_ ?_ ?_ ?_ script).2
  · rw [hrun]
    nofun
  · intro es q s t u hq h hmove
    refine ⟨hmove.keeps.deadline.trans h.1, ?_⟩
    cases hmove with
    | ended hend =>
      intro hcause
      cases hcause
      cases hend with
      | deadline hsome hle => cases hsome.symm.trans h.1
    | _ => exact h.2
  · intro es q t e hq hsettled h he
    rw [absorb_deadline, absorb_cause]
    exact h
  · exact fun hq hsettled h => ⟨h.1, nofun⟩
  · exact fun hq h => h

theorem result?_deadline {r : Relay} {limit : Duration} :
    r.result? = some (.error (.deadlineExceeded limit)) ↔ r.cause = some (.deadline limit) := by
  unfold result?
  rw [Option.map_eq_some_iff]
  constructor
  · rintro ⟨cause, hcause, hresult⟩
    rw [hcause]
    cases cause <;> cases hresult
    rfl
  · intro hcause
    exact ⟨.deadline limit, hcause, rfl⟩

end Relay

/-- What a limit comes to at some moment, when a relay has lasted `age`: it reports `now`, where
one without a limit reports `free`, and `later span` if nothing else happens until `span` more has
passed. -/
structure Lifetime (deadline : Option Duration) (age : Duration)
    (free now : Option (Except TunnelError Summary))
    (later : Duration → Option (Except TunnelError Summary)) : Prop where
  /-- As long as the time allowed is not over, the limit changes nothing. -/
  inTime : (∀ limit, deadline = some limit → ¬ limit ≤ age) → now = free
  /-- When it is over, a relay has ended for that, unless it ended by itself. -/
  expired : ∀ limit, deadline = some limit → limit ≤ age →
    now = some (.error (.deadlineExceeded limit)) ∨ now = free ∧ free ≠ none
  /-- A relay ends for no other limit, and not before. -/
  notEarly : ∀ limit, now = some (.error (.deadlineExceeded limit)) →
    deadline = some limit ∧ limit ≤ age
  /-- A relay that goes on ends in the step with which its time is over. -/
  reached : now = none → ∀ limit span, deadline = some limit → limit ≤ age + span →
    later span = some (.error (.deadlineExceeded limit))
  /-- No other time that passes ends it. -/
  unreached : now = none → ∀ span, (∀ limit, deadline = some limit → ¬ limit ≤ age + span) →
    later span = none

namespace Relay

/-- Time alone does not end a relay without a limit. -/
theorem session_unlimited_advance {r : Relay} (hrun : r.cause = none) (hlimit : r.deadline = none)
    {es : List Event} (h : (r.session es).1.cause = none) (span : Duration) :
    (r.session (es ++ [.advance span])).1.cause = none := by
  have hstill : (r.session es).1.deadline = none := (session_deadline hrun es).trans hlimit
  rw [session_snoc, (session_settled h).step_advance h hstill]
  exact h

/-- A relay ends when the time allowed to it is over, and not before, whatever else happens. -/
theorem session_lifetime {r : Relay} (hrun : r.cause = none) (hnew : r.elapsed = ⟨0⟩)
    (script : List Event) :
    Lifetime r.deadline (Event.elapsed script) (r.unlimited.session script).1.result?
      (r.session script).1.result?
      (fun span => (r.session (script ++ [.advance span])).1.result?) := by
  have hage (es : List Event) : r.elapsed + Event.elapsed es = Event.elapsed es := by
    rw [hnew, Duration.zero_add]
  have hlonger (span : Duration) :
      Event.elapsed (script ++ [.advance span]) = Event.elapsed script + span :=
    Event.elapsed_concat script _
  have inTime : ∀ es, (∀ limit, r.deadline = some limit → ¬ limit ≤ Event.elapsed es) →
      (r.session es).1.result? = (r.unlimited.session es).1.result? := by
    intro es htime
    cases session_bounded hrun es with
    | inTime _ hsame => rw [hsame, result?_bounded]
    | expired hlimit hfront hfree hle hcause =>
      rw [hage] at hle
      exact absurd (Duration.le_trans hle (Event.elapsed_mono hfront)) (htime _ hlimit)
  have expired : ∀ es limit, r.deadline = some limit → limit ≤ Event.elapsed es →
      (r.session es).1.result? = some (.error (.deadlineExceeded limit)) ∨
        (r.session es).1.result? = (r.unlimited.session es).1.result? ∧
          (r.unlimited.session es).1.result? ≠ none := by
    intro es limit hlimit hle
    cases session_bounded hrun es with
    | inTime htime hsame =>
      refine .inr ⟨by rw [hsame, result?_bounded], fun hfree => ?_⟩
      refine htime es (List.prefix_refl es) (result?_eq_none.mp hfree) limit hlimit ?_
      rwa [hage]
    | expired hother hfront hfree hle hcause =>
      cases hlimit.symm.trans hother
      exact .inl (result?_deadline.mpr hcause)
  -- a relay that goes on would go on without a limit, also when more time passes
  have hfree : (r.session script).1.result? = none →
      ∀ span, (r.unlimited.session (script ++ [.advance span])).1.result? = none := by
    intro hnow span
    have hgoes : (r.unlimited.session script).1.cause = none := by
      cases session_bounded hrun script with
      | inTime _ hsame =>
        rw [← result?_eq_none, ← result?_bounded r.deadline, ← hsame]
        exact hnow
      | expired hlimit hfront hfree hle hcause =>
        cases hcause.symm.trans (result?_eq_none.mp hnow)
    exact result?_eq_none.mpr (session_unlimited_advance (r := r.unlimited) hrun rfl hgoes span)
  refine ⟨inTime script, expired script, ?_, ?_, ?_⟩
  · intro limit hnow
    cases session_bounded hrun script with
    | inTime _ hsame =>
      rw [hsame, result?_bounded, result?_deadline] at hnow
      exact absurd hnow (session_unlimited_cause (r := r.unlimited) hrun rfl script limit)
    | expired hlimit hfront hfree hle hcause =>
      cases (result?_deadline.mp hnow).symm.trans hcause
      rw [hage] at hle
      exact ⟨hlimit, Duration.le_trans hle (Event.elapsed_mono hfront)⟩
  · intro hnow limit span hlimit hle
    rw [← hlonger] at hle
    rcases expired _ limit hlimit hle with hexpired | ⟨-, hended⟩
    · exact hexpired
    · exact absurd (hfree hnow span) hended
  · intro hnow span htime
    rw [← hlonger] at htime
    exact (inTime _ htime).trans (hfree hnow span)

/-! ### What has waited -/

/-- What waits changes only what is around a relay. -/
theorem foldl_absorb_eq (r : Relay) (early : List Event) :
    early.foldl absorb r = { r with
      app := (early.foldl absorb r).app
      wire := (early.foldl absorb r).wire
      elapsed := (early.foldl absorb r).elapsed } := by
  induction early generalizing r with
  | nil => rfl
  | cons e es ih =>
    have hfirst := r.absorb_eq e
    have hrest := ih (r.absorb e)
    rw [hfirst] at hrest
    rw [List.foldl_cons, hfirst]
    exact hrest

/-- The clock stands as long as only the sides do something. -/
theorem foldl_absorb_clocked (r : Relay) (deadline : Option Duration) (elapsed : Duration)
    {early : List Event} (h : ∀ e ∈ early, e.isAdvance = false) :
    early.foldl absorb (r.clocked deadline elapsed)
      = (early.foldl absorb r).clocked deadline elapsed := by
  induction early generalizing r with
  | nil => rfl
  | cons e es ih =>
    have hstands : elapsed + e.span = elapsed := by
      have := h e List.mem_cons_self
      cases e <;> first | rfl | cases this
    rw [List.foldl_cons, absorb_clocked, hstands,
      ih _ fun f hf => h f (List.mem_cons_of_mem e hf), List.foldl_cons]

/-- A relay that begins with what has waited has the lifetime of any other. -/
theorem lifetime_waiting (limits : Limits) (deadline : Option Duration) {early : List Event}
    (hearly : ∀ e ∈ early, e.isAdvance = false) (late : List Event) :
    let begun : Relay := { limits := limits, deadline := deadline }
    let free : Relay := { limits := limits }
    Lifetime deadline (Event.elapsed late)
      ((early.foldl absorb free).session late).1.result?
      ((early.foldl absorb begun).session late).1.result?
      (fun span => ((early.foldl absorb begun).session (late ++ [.advance span])).1.result?) := by
  intro begun free
  have hbegun : early.foldl absorb begun = (early.foldl absorb free).clocked deadline ⟨0⟩ :=
    free.foldl_absorb_clocked deadline ⟨0⟩ hearly
  have hfree : ((early.foldl absorb free).clocked deadline ⟨0⟩).unlimited
      = early.foldl absorb free := (free.foldl_absorb_clocked none ⟨0⟩ hearly).symm
  have hrun : ((early.foldl absorb free).clocked deadline ⟨0⟩).cause = none := by
    rw [foldl_absorb_eq]
    rfl
  have h := session_lifetime hrun rfl late
  rw [hfree] at h
  rw [hbegun]
  exact h

end Relay

end Carrier
