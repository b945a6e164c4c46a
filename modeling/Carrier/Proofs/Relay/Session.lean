import Carrier.Proofs.Relay.Moves
import Mathlib.Data.List.Induction

/-!
# Relays over whole scripts

- `Relay.Keeps`: what no move changes.
- `Relay.Settled`: nothing is left to do; `Relay.settle_settled`: so it is after settling.
- `Relay.settle_inward`, `Relay.Settled.settle`: what settling comes to when little is left to do.
- `Relay.session_snoc`: a session event by event.
- `Relay.session_upto`: what is kept by events and by moves holds of a session up to its end.
- `Relay.session_induction`: what holds of a new relay and is kept by events and by moves holds
  throughout every session.
- `Relay.result?_ok`: when a relay ended well.
-/

namespace Carrier

namespace Relay

/-! ### What moves leave alone -/

/-- `r.Keeps s`: the relays differ at most in what they have taken in, sent and handed over. -/
structure Keeps (r s : Relay) : Prop where
  limits : s.limits = r.limits
  deadline : s.deadline = r.deadline
  elapsed : s.elapsed = r.elapsed
  dropped : s.wire.dropped = r.wire.dropped
  app : s.app = { r.app with unread := s.app.unread }
  unread : s.app.unread = r.app.unread ∨ s.app.unread = []

theorem Keeps.refl (r : Relay) : r.Keeps r := ⟨rfl, rfl, rfl, rfl, rfl, .inl rfl⟩

theorem Keeps.trans {r s q : Relay} (h₁ : r.Keeps s) (h₂ : s.Keeps q) : r.Keeps q where
  limits := h₂.limits.trans h₁.limits
  deadline := h₂.deadline.trans h₁.deadline
  elapsed := h₂.elapsed.trans h₁.elapsed
  dropped := h₂.dropped.trans h₁.dropped
  app := by
    rw [h₂.app, h₁.app]
  unread := by
    rcases h₂.unread with h | h
    · rw [h]
      exact h₁.unread
    · exact .inr h

theorem Ends.keeps {r s : Relay} {cause : Cause} {writes : List Bytes}
    (h : r.Ends cause writes s) : r.Keeps s := by
  cases h with
  | sendFailed hout hdrop => exact ⟨rfl, rfl, rfl, rfl, rfl, .inr rfl⟩
  | _ => exact ⟨rfl, rfl, rfl, rfl, rfl, .inl rfl⟩

theorem Move.keeps {r s : Relay} {t : Traffic} (h : Move r t s) : r.Keeps s := by
  cases h with
  | sent hopen => exact ⟨rfl, rfl, rfl, rfl, rfl, .inr rfl⟩
  | ended hend => exact ⟨hend.keeps.1, hend.keeps.2, hend.keeps.3, hend.keeps.4, hend.keeps.5,
      hend.keeps.6⟩
  | _ => exact ⟨rfl, rfl, rfl, rfl, rfl, .inl rfl⟩

theorem Moves.keeps {r s : Relay} {t : Traffic} (h : Moves r t s) : r.Keeps s := by
  induction h with
  | refl r => exact Keeps.refl r
  | next hrun hmove hrest ih => exact hmove.keeps.trans ih

/-! ### Settled relays -/

/-- A relay that waits for an event. -/
structure Settled (r : Relay) : Prop where
  /-- All that the application wrote has been sent. -/
  sent : r.app.unread = []
  /-- The application may write more. -/
  unended : r.app.readEnd = none
  /-- No message can be read or handed over. -/
  idle : r.takeIn = none
  /-- The time allowed is not over. -/
  inTime : ∀ limit, r.deadline = some limit → ¬ limit ≤ r.elapsed

theorem andThen_running {first : Relay × Traffic} {next : Relay → Relay × Traffic}
    (h : (andThen first next).1.cause = none) :
    first.1.cause = none ∧ (andThen first next).1 = (next first.1).1 := by
  unfold andThen at h ⊢
  cases hcause : first.1.cause with
  | none => exact ⟨rfl, rfl⟩
  | some cause =>
    simp only [hcause] at h
    cases h

theorem outward_running {r : Relay} (h : r.outward.1.cause = none) :
    r.outward.1 = r.emptied.credited r.outgoing.flatten.length ∧ r.app.readEnd = none := by
  change (r.emptied.send r.outgoing).1.cause = none at h
  show (r.emptied.send r.outgoing).1 = _ ∧ _
  by_cases hopen : r.wire.dropped = false ∨ r.outgoing = []
  · rw [send_eq r.emptied r.outgoing hopen] at h ⊢
    cases hend : r.app.readEnd with
    | none => simp [send, emptied, credited, hend]
    | some how => cases how <;> simp [send, emptied, credited, hend] at h
  · rw [not_or, Bool.not_eq_false] at hopen
    rw [send_dropped r.emptied r.outgoing hopen.1 hopen.2, finish_cause] at h
    cases h

theorem inward_idle {r : Relay} (h : r.inward.1.cause = none) : r.inward.1.takeIn = none := by
  fun_induction inward r with
  | case1 r hmove => exact hmove
  | case2 r next first hmove cause hcause =>
    rw [hcause] at h
    cases h
  | case3 r next first hmove hcause after rest hinward ih =>
    rw [hinward] at ih
    exact ih h

theorem expire_running {r : Relay} (h : r.expire.1.cause = none) :
    r.expire.1 = r ∧ ∀ limit, r.deadline = some limit → ¬ limit ≤ r.elapsed := by
  unfold expire at h ⊢
  cases hlimit : r.deadline with
  | none => exact ⟨rfl, fun limit h => by cases h⟩
  | some limit =>
    by_cases hle : limit ≤ r.elapsed
    · simp [hlimit, hle] at h
    · simp only [if_neg hle, true_and]
      intro other hother
      cases hother
      exact hle

/-- A relay that has settled and has not ended has nothing left to do. -/
theorem settle_settled {r : Relay} (h : r.settle.1.cause = none) : Settled r.settle.1 := by
  obtain ⟨hin, hexpire⟩ := andThen_running h
  obtain ⟨hout, hinward⟩ := andThen_running hin
  rw [settle, hexpire] at h
  obtain ⟨hsame, htime⟩ := expire_running h
  obtain ⟨houtward, hend⟩ := outward_running hout
  have hkeeps := (inward_moves hout).keeps
  have hempty : r.outward.1.app.unread = [] := by
    rw [houtward]
    rfl
  have hsent : r.outward.1.inward.1.app.unread = [] := by
    rcases hkeeps.unread with h | h
    · rw [h, hempty]
    · exact h
  rw [settle, hexpire, hsame, hinward]
  rw [hinward] at htime hin
  refine ⟨hsent, ?_, inward_idle hin, htime⟩
  rw [hkeeps.app, houtward]
  exact hend

theorem inward_none {r : Relay} (h : r.takeIn = none) : r.inward = (r, Traffic.none) := by
  rw [inward]
  split
  · rfl
  · rename_i hmove
    cases h.symm.trans hmove

theorem inward_some {r : Relay} {next : Relay × Traffic} (h : r.takeIn = some next) :
    r.inward = andThen next inward := by
  rw [inward]
  split
  · rename_i hmove
    cases h.symm.trans hmove
  · rename_i hmove
    cases h.symm.trans hmove
    unfold andThen
    split <;> rename_i hcause <;> simp only [hcause]

theorem expire_inTime {r : Relay} (h : ∀ limit, r.deadline = some limit → ¬ limit ≤ r.elapsed) :
    r.expire = (r, Traffic.none) := by
  unfold expire
  cases hlimit : r.deadline with
  | none => rfl
  | some limit => exact if_neg (h limit hlimit)

/-- A relay that has nothing to send and time left only takes in. -/
theorem settle_inward {r : Relay} (hrun : r.cause = none) (hsent : r.app.unread = [])
    (hend : r.app.readEnd = none)
    (htime : ∀ limit, r.deadline = some limit → ¬ limit ≤ r.elapsed) : r.settle = r.inward := by
  have hempty : r.emptied = r := by
    rw [emptied, ← hsent]
  have hout : r.outward = (r, Traffic.none) := by
    show r.emptied.send r.outgoing = _
    rw [outgoing, hsent, hempty]
    simp [send, hend]
  have hin : andThen r.outward inward = r.inward := by
    rw [hout]
    simp [andThen, hrun]
  unfold settle
  rw [hin, andThen]
  cases hcause : r.inward.1.cause with
  | some cause => rfl
  | none =>
    -- taking in changes nothing about the clock
    have hkeeps := (inward_moves hrun).keeps
    rw [← hkeeps.deadline, ← hkeeps.elapsed] at htime
    simp [expire_inTime htime]

/-- A settled relay has nothing to do. -/
theorem Settled.settle {r : Relay} (hrun : r.cause = none) (h : Settled r) :
    r.settle = (r, Traffic.none) := by
  rw [settle_inward hrun h.sent h.unended h.inTime, inward_none h.idle]

/-! ### Sessions event by event -/

theorem step_ended {r : Relay} (h : r.cause ≠ none) (e : Event) :
    r.step e = (r, Traffic.none) := by
  unfold step
  cases hcause : r.cause with
  | none => exact absurd hcause h
  | some cause => rfl

theorem step_cancel {r : Relay} (h : r.cause = none) : r.step .cancel = r.finish .cancelled := by
  simp [step, h]

theorem step_settle {r : Relay} {e : Event} (h : r.cause = none) (he : e ≠ .cancel) :
    r.step e = (r.absorb e).settle := by
  unfold step
  rw [h]
  cases e <;> first | rfl | exact absurd rfl he

/-- An event changes only what is around a relay. -/
theorem absorb_eq (r : Relay) (e : Event) :
    r.absorb e = { r with
      app := (r.absorb e).app
      wire := (r.absorb e).wire
      elapsed := (r.absorb e).elapsed } := by
  cases e with
  | remoteBytes data =>
    simp only [absorb]
    split <;> rfl
  | _ => rfl

@[simp] theorem absorb_cause (r : Relay) (e : Event) : (r.absorb e).cause = r.cause := by
  rw [absorb_eq]

theorem run_append (r : Relay) (es fs : List Event) :
    r.run (es ++ fs)
      = (((r.run es).1.run fs).1, (r.run es).2.followedBy ((r.run es).1.run fs).2) := by
  induction es generalizing r with
  | nil => simp [run]
  | cons e es ih => simp [run, ih, Traffic.followedBy_assoc]

theorem run_ended {r : Relay} (h : r.cause ≠ none) (es : List Event) :
    r.run es = (r, Traffic.none) := by
  induction es with
  | nil => rfl
  | cons e es ih => simp [run, step_ended h, ih]

theorem session_nil (r : Relay) : r.session [] = r.settle := by
  simp [session, run]

theorem session_append (r : Relay) (es fs : List Event) :
    r.session (es ++ fs)
      = (((r.session es).1.run fs).1,
          (r.session es).2.followedBy ((r.session es).1.run fs).2) := by
  simp [session, run_append, Traffic.followedBy_assoc]

theorem session_snoc (r : Relay) (es : List Event) (e : Event) :
    r.session (es ++ [e])
      = (((r.session es).1.step e).1,
          (r.session es).2.followedBy ((r.session es).1.step e).2) := by
  simp [session_append, run]

theorem step_settled {r : Relay} {e : Event} (h : (r.step e).1.cause = none) :
    Settled (r.step e).1 := by
  by_cases hcause : r.cause = none
  · by_cases he : e = .cancel
    · subst he
      rw [step_cancel hcause, finish_cause] at h
      cases h
    · rw [step_settle hcause he] at h ⊢
      exact settle_settled h
  · rw [step_ended hcause] at h
    exact absurd h hcause

theorem session_settled {r : Relay} {es : List Event} (h : (r.session es).1.cause = none) :
    Settled (r.session es).1 := by
  cases es using List.reverseRecOn with
  | nil =>
    rw [session_nil] at h ⊢
    exact settle_settled h
  | append_singleton es e =>
    rw [session_snoc] at h ⊢
    exact step_settled h

/-- What every move keeps is kept by a sequence of moves. -/
theorem Moves.carry {P : Relay → Traffic → Prop}
    (moves : ∀ {q s : Relay} {t u : Traffic},
      q.cause = none → P q t → Move q u s → P s (t.followedBy u))
    {q s : Relay} {t u : Traffic} (h : P q t) (hmoves : Moves q u s) : P s (t.followedBy u) := by
  induction hmoves generalizing t with
  | refl q =>
    rw [Traffic.followedBy_none]
    exact h
  | next hrun hmove hrest ih =>
    rw [← Traffic.followedBy_assoc]
    exact ih (moves hrun h hmove)

/-- What holds of a new relay and is kept by moves and events holds of a session up to the event
with which the relay ends; the events after it change nothing. -/
theorem session_upto {P : List Event → Relay → Traffic → Prop} {r : Relay}
    (hrun : r.cause = none) (begins : P [] r Traffic.none)
    (moves : ∀ {es : List Event} {q s : Relay} {t u : Traffic},
      q.cause = none → P es q t → Move q u s → P es s (t.followedBy u))
    (absorbs : ∀ {es : List Event} {q : Relay} {t : Traffic} {e : Event},
      q.cause = none → Settled q → P es q t → e ≠ .cancel → P (es ++ [e]) (q.absorb e) t)
    (cancels : ∀ {es : List Event} {q : Relay} {t : Traffic},
      q.cause = none → Settled q → P es q t →
        P (es ++ [.cancel]) (q.finish .cancelled).1 (t.followedBy (q.finish .cancelled).2))
    (script : List Event) :
    ∃ front rest, script = front ++ rest ∧ r.session front = r.session script ∧
      ((r.session script).1.cause = none → rest = []) ∧
      P front (r.session script).1 (r.session script).2 := by
  induction script using List.reverseRecOn with
  | nil =>
    refine ⟨[], [], rfl, rfl, fun _ => rfl, ?_⟩
    rw [session_nil]
    exact Moves.carry moves begins (settle_moves hrun)
  | append_singleton es e ih =>
    obtain ⟨front, rest, rfl, hsame, hrest, hP⟩ := ih
    rw [session_snoc]
    by_cases hcause : (r.session (front ++ rest)).1.cause = none
    · have hsettled := session_settled hcause
      -- a relay that still runs has seen the whole script
      have hnil := hrest hcause
      rw [hnil, List.append_nil] at hcause hsettled hP ⊢
      refine ⟨front ++ [e], [], (List.append_nil _).symm, session_snoc r front e,
        fun _ => rfl, ?_⟩
      by_cases he : e = .cancel
      · subst he
        rw [step_cancel hcause]
        exact cancels hcause hsettled hP
      · rw [step_settle hcause he]
        refine Moves.carry moves (absorbs hcause hsettled hP he) (settle_moves ?_)
        rw [absorb_cause]
        exact hcause
    · rw [step_ended hcause, Traffic.followedBy_none]
      exact ⟨front, rest ++ [e], List.append_assoc _ _ _, hsame, fun h => absurd h hcause, hP⟩

/-- What holds of a new relay and is kept by moves and events holds throughout every session. -/
theorem session_induction {P : List Event → Relay → Traffic → Prop} {r : Relay}
    (hrun : r.cause = none) (begins : P [] r Traffic.none)
    (moves : ∀ {es : List Event} {q s : Relay} {t u : Traffic},
      q.cause = none → P es q t → Move q u s → P es s (t.followedBy u))
    (absorbs : ∀ {es : List Event} {q : Relay} {t : Traffic} {e : Event},
      q.cause = none → Settled q → P es q t → e ≠ .cancel → P (es ++ [e]) (q.absorb e) t)
    (cancels : ∀ {es : List Event} {q : Relay} {t : Traffic},
      q.cause = none → Settled q → P es q t →
        P (es ++ [.cancel]) (q.finish .cancelled).1 (t.followedBy (q.finish .cancelled).2))
    (rests : ∀ {es : List Event} {q : Relay} {t : Traffic} {e : Event},
      q.cause ≠ none → P es q t → P (es ++ [e]) q t)
    (script : List Event) : P script (r.session script).1 (r.session script).2 := by
  obtain ⟨front, rest, hscript, -, hrest, hP⟩ :=
    session_upto hrun begins moves absorbs cancels script
  by_cases hcause : (r.session script).1.cause = none
  · rw [hrest hcause, List.append_nil] at hscript
    exact hscript ▸ hP
  · -- the events after the end, one by one
    have hafter : ∀ more, P (front ++ more) (r.session script).1 (r.session script).2 := by
      intro more
      induction more using List.reverseRecOn with
      | nil => rwa [List.append_nil]
      | append_singleton more e ih =>
        rw [← List.append_assoc]
        exact rests hcause ih
    exact hscript ▸ hafter rest

/-! ### What a relay reports -/

/-- A relay reports a summary exactly for three causes. -/
theorem result?_ok {r : Relay} {s : Summary} (h : r.result? = some (.ok s)) :
    s.toRemote = r.toRemote ∧ s.toLocal = r.toLocal ∧
      (r.cause = some .localEof ∧ s.ending = .localClosed ∨
        (∃ reply, r.cause = some (.remoteClosed reply)) ∧ s.ending = .remoteClosed ∨
        r.cause = some .cancelled ∧ s.ending = .cancelled) := by
  obtain ⟨cause, hcause, hresult⟩ := Option.map_eq_some_iff.mp h
  rw [hcause]
  cases cause with
  | localEof =>
    cases hresult
    exact ⟨rfl, rfl, .inl ⟨rfl, rfl⟩⟩
  | remoteClosed reply =>
    cases hresult
    exact ⟨rfl, rfl, .inr (.inl ⟨⟨reply, rfl⟩, rfl⟩)⟩
  | cancelled =>
    cases hresult
    exact ⟨rfl, rfl, .inr (.inr ⟨rfl, rfl⟩)⟩
  | _ => cases hresult

end Relay

end Carrier
