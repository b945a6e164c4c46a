import Carrier.Proofs.Relay.Session

/-!
# What makes no difference

How much of a message the application takes with one write, and whether its side can be shut down,
is nothing that anybody could tell from what a relay sends, hands over and reports.

- `Event.isTuning`: the events that say no more than that.
- `Relay.tuned`: a relay with other settings of the kind.
- `Relay.Alike`: two relays that nobody can tell apart.
- `Relay.run_alike`: they stay so.
- `Relay.session_filter`: a session may leave such events out.
-/

namespace Carrier

/-- How much one write takes, or how shutting down goes. -/
def Event.isTuning : Event → Bool
  | .localWriteLimit _ | .localShutdownFault _ => true
  | _ => false

/-- The application's side with another write limit, where shutting down goes otherwise. -/
def Application.tuned (app : Application) (limit : Nat) (fault : Option IoFault) : Application :=
  { app with writeLimit := limit, shutdownFault := fault }

section Settings

variable (app : Application) (limit : Nat) (fault : Option IoFault)

@[simp] theorem Application.tuned_readEnd : (app.tuned limit fault).readEnd = app.readEnd := rfl

@[simp] theorem Application.tuned_writeFault : (app.tuned limit fault).writeFault = app.writeFault :=
  rfl

@[simp] theorem Application.tuned_flushFault : (app.tuned limit fault).flushFault = app.flushFault :=
  rfl

@[simp] theorem Application.tuned_takesNothing :
    (app.tuned limit fault).takesNothing = app.takesNothing := rfl

@[simp] theorem Application.tuned_stalled : (app.tuned limit fault).stalled = app.stalled := rfl

@[simp] theorem Application.tuned_writeLimit : (app.tuned limit fault).writeLimit = limit := rfl

end Settings

namespace Relay

/-- The relay with another write limit, where shutting down goes otherwise. -/
def tuned (r : Relay) (limit : Nat) (fault : Option IoFault) : Relay :=
  { r with app := r.app.tuned limit fault }

section Settings

variable (r : Relay) (limit : Nat) (fault : Option IoFault)

@[simp] theorem tuned_app : (r.tuned limit fault).app = r.app.tuned limit fault := rfl

@[simp] theorem tuned_cause : (r.tuned limit fault).cause = r.cause := rfl

@[simp] theorem tuned_wire : (r.tuned limit fault).wire = r.wire := rfl

@[simp] theorem tuned_held : (r.tuned limit fault).held = r.held := rfl

@[simp] theorem tuned_pending : (r.tuned limit fault).pending = r.pending := rfl

@[simp] theorem tuned_limits : (r.tuned limit fault).limits = r.limits := rfl

@[simp] theorem tuned_deadline : (r.tuned limit fault).deadline = r.deadline := rfl

@[simp] theorem tuned_elapsed : (r.tuned limit fault).elapsed = r.elapsed := rfl

end Settings

/-! ### Relays that nobody can tell apart -/

/-- The relays report the same and have sent the same octets to both sides. As long as they run,
they differ at most in their settings. -/
structure Alike (x y : Relay × Traffic) : Prop where
  running : x.1.cause = none → ∃ limit fault, y.1 = x.1.tuned limit fault
  result : y.1.result? = x.1.result?
  frames : y.2.frames = x.2.frames
  delivered : y.2.delivered = x.2.delivered

theorem result?_eq_none {r : Relay} : r.result? = none ↔ r.cause = none :=
  Option.map_eq_none_iff

namespace Alike

variable {x y z x' y' : Relay × Traffic}

theorem cause_iff (h : Alike x y) : y.1.cause = none ↔ x.1.cause = none := by
  rw [← result?_eq_none, h.result, result?_eq_none]

/-- Settings alone make no difference. -/
theorem of_tuned {r : Relay} {t u : Traffic} (limit : Nat) (fault : Option IoFault)
    (hframes : u.frames = t.frames) (hdelivered : u.delivered = t.delivered) :
    Alike (r, t) (r.tuned limit fault, u) :=
  ⟨fun _ => ⟨limit, fault, rfl⟩, rfl, hframes, hdelivered⟩

theorem refl (x : Relay × Traffic) : Alike x x :=
  of_tuned x.1.app.writeLimit x.1.app.shutdownFault rfl rfl

theorem symm (h : Alike x y) : Alike y x where
  running hrun := by
    obtain ⟨limit, fault, htuned⟩ := h.running (h.cause_iff.mp hrun)
    exact ⟨x.1.app.writeLimit, x.1.app.shutdownFault, by rw [htuned]; rfl⟩
  result := h.result.symm
  frames := h.frames.symm
  delivered := h.delivered.symm

theorem trans (h₁ : Alike x y) (h₂ : Alike y z) : Alike x z where
  running hrun := by
    obtain ⟨limit, fault, hy⟩ := h₁.running hrun
    obtain ⟨limit', fault', hz⟩ := h₂.running (h₁.cause_iff.mpr hrun)
    exact ⟨limit', fault', by rw [hz, hy]; rfl⟩
  result := h₂.result.trans h₁.result
  frames := h₂.frames.trans h₁.frames
  delivered := h₂.delivered.trans h₁.delivered

/-- Relays that were alike and are alike again have sent the same in between. -/
theorem after (h : Alike x y) (h' : Alike x' y') :
    Alike (x'.1, x.2.followedBy x'.2) (y'.1, y.2.followedBy y'.2) where
  running := h'.running
  result := h'.result
  frames := by
    rw [Traffic.frames_followedBy, Traffic.frames_followedBy, h.frames, h'.frames]
  delivered := by
    have hfirst := h.delivered
    have hthen := h'.delivered
    unfold Traffic.delivered at hfirst hthen ⊢
    rw [Traffic.writes_followedBy, Traffic.writes_followedBy, List.flatten_append,
      List.flatten_append, hfirst, hthen]

/-- Relays that are alike go on alike, if what they go on with is indifferent to settings. -/
theorem andThen {next : Relay → Relay × Traffic} (h : Alike x y)
    (hnext : ∀ limit fault, x.1.cause = none →
      Alike (next x.1) (next (x.1.tuned limit fault))) :
    Alike (andThen x next) (andThen y next) := by
  unfold Relay.andThen
  cases hx : x.1.cause with
  | some cause =>
    cases hy : y.1.cause with
    | some other => exact h
    | none => cases hx.symm.trans (h.cause_iff.mp hy)
  | none =>
    obtain ⟨limit, fault, htuned⟩ := h.running hx
    rw [h.cause_iff.mpr hx, htuned]
    exact h.after (hnext limit fault hx)

end Alike

/-! ### Handing over -/

/-- Deliveries that went the same way and wrote the same octets. -/
inductive Delivery.Alike : Delivery → Delivery → Prop where
  | blocked : Alike .blocked .blocked
  | failed (fault : IoFault) {writes others : List Bytes}
    (h : others.flatten = writes.flatten) : Alike (.failed fault writes) (.failed fault others)
  | done {writes others : List Bytes} (h : others.flatten = writes.flatten) :
    Alike (.done writes) (.done others)

theorem flush_alike (app : Application) (limit : Nat) (fault : Option IoFault)
    {writes others : List Bytes} (h : others.flatten = writes.flatten) :
    Delivery.Alike (flush app writes) (flush (app.tuned limit fault) others) := by
  unfold flush Application.tuned
  cases app.flushFault with
  | some fault => exact .failed fault h
  | none => exact .done h

theorem deliver_alike (app : Application) (limit : Nat) (fault : Option IoFault)
    (payload : Bytes) :
    Delivery.Alike (deliver app payload) (deliver (app.tuned limit fault) payload) := by
  unfold deliver
  by_cases hempty : payload.isEmpty = true
  · rw [if_pos hempty, if_pos hempty]
    exact flush_alike app limit fault rfl
  · rw [if_neg hempty, if_neg hempty, Application.tuned_writeFault]
    cases app.writeFault with
    | some fault => exact .failed fault rfl
    | none =>
      cases htakes : app.takesNothing with
      | true => simpa [htakes] using Delivery.Alike.failed _ rfl
      | false =>
        cases hstall : app.stalled with
        | true => simpa [htakes, hstall] using Delivery.Alike.blocked
        | false =>
          -- other pieces, but of the same payload
          have hsame : (Bytes.pieces limit payload).flatten
              = (Bytes.pieces app.writeLimit payload).flatten := by
            rw [Bytes.pieces_flatten, Bytes.pieces_flatten]
          have hflush := flush_alike app limit fault hsame
          simpa [htakes, hstall] using hflush

/-! ### One step -/

section Step

variable (r : Relay) (limit : Nat) (fault : Option IoFault)

theorem finish_alike (cause : Cause) : Alike (r.finish cause) ((r.tuned limit fault).finish cause) :=
  .of_tuned limit fault rfl rfl

theorem send_alike (pieces : List Bytes) :
    Alike (r.send pieces) ((r.tuned limit fault).send pieces) := by
  induction pieces generalizing r with
  | nil =>
    simp only [send, tuned_app, Application.tuned_readEnd]
    split
    · exact .of_tuned limit fault rfl rfl
    · exact r.finish_alike limit fault _
    · exact r.finish_alike limit fault _
  | cons piece rest ih =>
    cases hdrop : r.wire.dropped with
    | true =>
      have hne := List.cons_ne_nil piece rest
      rw [send_dropped r _ hdrop hne, send_dropped (r.tuned limit fault) _ hdrop hne]
      exact r.finish_alike limit fault _
    | false =>
      have hopen : (r.tuned limit fault).wire.dropped = false := hdrop
      rw [send_cons rest hdrop, send_cons rest hopen]
      have hframe := Alike.refl (r, Traffic.frame (.whole .binary piece))
      exact hframe.after (ih (r.credited piece.length))

theorem outward_alike : Alike r.outward (r.tuned limit fault).outward :=
  r.emptied.send_alike limit fault r.outgoing

theorem handOver_alike (payload : Bytes) :
    Option.Rel Alike (r.handOver payload) ((r.tuned limit fault).handOver payload) := by
  have hdel := deliver_alike r.app limit fault payload
  unfold handOver
  rw [tuned_app]
  generalize deliver r.app payload = here, deliver (r.app.tuned limit fault) payload = there at hdel
  cases hdel with
  | blocked => exact .none
  | @failed _ writes others hsame =>
    have hwritten : Alike (r, Traffic.written writes) (r.tuned limit fault, Traffic.written others) :=
      .of_tuned limit fault rfl hsame
    exact .some (hwritten.after (finish_alike { r with held := none } limit fault _))
  | @done writes others hsame =>
    exact .some (.of_tuned (t := Traffic.written writes) limit fault rfl hsame)

theorem react_alike (message : Option Message) :
    Alike (r.react message) ((r.tuned limit fault).react message) := by
  unfold react
  split
  · exact .of_tuned limit fault rfl rfl
  · exact .of_tuned limit fault rfl rfl
  · rw [tuned_wire]
    split
    · exact r.finish_alike limit fault _
    · exact .of_tuned limit fault rfl rfl
  · exact r.finish_alike limit fault _
  · exact .of_tuned limit fault rfl rfl

theorem readNext_alike : Option.Rel Alike r.readNext (r.tuned limit fault).readNext := by
  simp only [readNext, tuned_limits, tuned_pending, tuned_wire]
  split
  · by_cases hdrop : r.wire.dropped = true
    · simpa [hdrop] using Option.Rel.some (r.finish_alike limit fault _)
    · simp [hdrop]
  · exact .some (r.finish_alike limit fault _)
  · exact .some (react_alike _ limit fault _)

theorem takeIn_alike : Option.Rel Alike r.takeIn (r.tuned limit fault).takeIn := by
  simp only [takeIn, tuned_held]
  split
  · exact r.handOver_alike limit fault _
  · exact r.readNext_alike limit fault

theorem inward_alike : Alike r.inward (r.tuned limit fault).inward := by
  -- on what is left to do, since both relays make their moves in step
  induction hn : r.backlog using Nat.strongRecOn generalizing r limit fault with
  | _ n ih =>
    subst hn
    have htake := r.takeIn_alike limit fault
    generalize hmove : r.takeIn = move, hother : (r.tuned limit fault).takeIn = other at htake
    cases htake with
    | none =>
      rw [inward_none hmove, inward_none hother]
      exact .of_tuned limit fault rfl rfl
    | some halike =>
      rw [inward_some hmove, inward_some hother]
      exact halike.andThen fun limit fault hrun =>
        ih _ (takeIn_backlog hmove hrun) _ limit fault rfl

theorem expire_alike : Alike r.expire (r.tuned limit fault).expire := by
  simp only [expire, tuned_deadline, tuned_elapsed]
  cases r.deadline with
  | none => exact .of_tuned limit fault rfl rfl
  | some span =>
    by_cases hle : span ≤ r.elapsed
    · simpa [hle] using r.finish_alike limit fault _
    · simpa [hle] using Alike.of_tuned limit fault rfl rfl

theorem settle_alike : Alike r.settle (r.tuned limit fault).settle := by
  refine ((r.outward_alike limit fault).andThen fun limit fault _ => ?_).andThen
    fun limit fault _ => ?_
  · exact inward_alike _ limit fault
  · exact expire_alike _ limit fault

theorem absorb_tuned (e : Event) :
    ∃ limit' fault', (r.tuned limit fault).absorb e = (r.absorb e).tuned limit' fault' := by
  cases e with
  | localWriteLimit octets => exact ⟨octets, fault, rfl⟩
  | localShutdownFault other => exact ⟨limit, some other, rfl⟩
  | remoteBytes data =>
    refine ⟨limit, fault, ?_⟩
    by_cases hdrop : r.wire.dropped = true
    · simp [absorb, hdrop]
    · simp [absorb, hdrop, tuned]
  | _ => exact ⟨limit, fault, rfl⟩

/-- An event does the same whatever the settings. -/
theorem step_alike (e : Event) : Alike (r.step e) ((r.tuned limit fault).step e) := by
  by_cases hrun : r.cause = none
  · have hother : (r.tuned limit fault).cause = none := hrun
    by_cases he : e = .cancel
    · subst he
      rw [step_cancel hrun, step_cancel hother]
      exact r.finish_alike limit fault _
    · rw [step_settle hrun he, step_settle hother he]
      obtain ⟨limit', fault', habsorb⟩ := r.absorb_tuned limit fault e
      rw [habsorb]
      exact (r.absorb e).settle_alike limit' fault'
  · have hother : (r.tuned limit fault).cause ≠ none := hrun
    rw [step_ended hrun, step_ended hother]
    exact .of_tuned limit fault rfl rfl

end Step

/-! ### Whole scripts -/

namespace Alike

variable {x y : Relay × Traffic}

theorem step (h : Alike x y) (e : Event) :
    Alike ((x.1.step e).1, x.2.followedBy (x.1.step e).2)
      ((y.1.step e).1, y.2.followedBy (y.1.step e).2) := by
  by_cases hrun : x.1.cause = none
  · obtain ⟨limit, fault, htuned⟩ := h.running hrun
    rw [htuned]
    exact h.after (x.1.step_alike limit fault e)
  · have hother : y.1.cause ≠ none := fun hcause => hrun (h.cause_iff.mp hcause)
    rw [step_ended hrun, step_ended hother, Traffic.followedBy_none, Traffic.followedBy_none]
    exact h

/-- Relays that are alike stay alike. -/
theorem run (h : Alike x y) (es : List Event) :
    Alike ((x.1.run es).1, x.2.followedBy (x.1.run es).2)
      ((y.1.run es).1, y.2.followedBy (y.1.run es).2) := by
  induction es generalizing x y with
  | nil => simpa [Relay.run] using h
  | cons e es ih =>
    simp only [Relay.run, ← Traffic.followedBy_assoc]
    exact ih (h.step e)

end Alike

theorem Settled.tuned {r : Relay} (h : Settled r) (limit : Nat) (fault : Option IoFault) :
    Settled (r.tuned limit fault) := by
  refine ⟨h.sent, h.unended, ?_, h.inTime⟩
  have htake := r.takeIn_alike limit fault
  rw [h.idle] at htake
  generalize (r.tuned limit fault).takeIn = other at htake
  cases htake
  rfl

theorem absorb_tuning (r : Relay) {e : Event} (he : e.isTuning = true) :
    ∃ limit fault, r.absorb e = r.tuned limit fault := by
  cases e with
  | localWriteLimit octets => exact ⟨octets, r.app.shutdownFault, rfl⟩
  | localShutdownFault fault => exact ⟨r.app.writeLimit, some fault, rfl⟩
  | _ => cases he

/-- A relay that waits has nothing to do about its settings. -/
theorem step_tuning {r : Relay} {e : Event} (he : e.isTuning = true)
    (hrest : r.cause = none → Settled r) : Alike (r, Traffic.none) (r.step e) := by
  by_cases hrun : r.cause = none
  · obtain ⟨limit, fault, habsorb⟩ := r.absorb_tuning he
    have hcancel : e ≠ .cancel := by
      rintro rfl
      cases he
    have htuned : (r.tuned limit fault).cause = none := hrun
    rw [step_settle hrun hcancel, habsorb, ((hrest hrun).tuned limit fault).settle htuned]
    exact .of_tuned limit fault rfl rfl
  · rw [step_ended hrun]
    exact .refl _

section Filter

variable {p : Event → Bool} (hp : ∀ e, p e = false → e.isTuning = true)

include hp

theorem Alike.run_filter {x y : Relay × Traffic} (h : Alike x y)
    (hrest : y.1.cause = none → Settled y.1) (es : List Event) :
    Alike ((x.1.run (es.filter p)).1, x.2.followedBy (x.1.run (es.filter p)).2)
      ((y.1.run es).1, y.2.followedBy (y.1.run es).2) := by
  induction es generalizing x y with
  | nil => simpa [Relay.run] using h
  | cons e es ih =>
    cases hkeep : p e with
    | true =>
      rw [List.filter_cons_of_pos hkeep]
      simp only [Relay.run, ← Traffic.followedBy_assoc]
      exact ih (h.step e) fun hrun => step_settled hrun
    | false =>
      rw [List.filter_cons_of_neg (by simp [hkeep])]
      -- only the second relay sees the event, and only its settings change
      have hskip := (Alike.refl y).after (step_tuning (hp e hkeep) hrest)
      rw [Traffic.followedBy_none] at hskip
      simp only [Relay.run, ← Traffic.followedBy_assoc]
      exact ih (h.trans hskip) fun hrun => step_settled hrun

/-- A session may leave out what is only said about settings. -/
theorem session_filter (r : Relay) (script : List Event) :
    Alike (r.session (script.filter p)) (r.session script) :=
  (Alike.refl r.settle).run_filter hp (fun hrun => settle_settled hrun) script

end Filter

end Relay

end Carrier
