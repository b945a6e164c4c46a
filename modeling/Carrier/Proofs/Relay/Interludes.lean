import Carrier.Proofs.Relay.Insertion
import Carrier.Proofs.Relay.Pongs
import Mathlib.Logic.Relation

/-!
# Pings and pongs in between

A ping or a pong may come at any frame boundary. Apart from the pong that answers a ping, nobody
can tell that it came.

- `Relay.Beside`: two relays of which one has come past the frame or will do so.
- `Relay.InStep`: they have done the same apart from the answer.
- `Relay.Beside.settle`: they settle in step; `Relay.InStep.run`: so they do over whole scripts.
- `Relay.session_interspersed`: any number of pings and pongs.
-/

namespace Carrier

namespace Relay

/-! ### Two relays -/

section Interlude

variable (limits : Limits) (w : Bytes) (f : WireFrame)

/-- Two relays side by side, when `x` has come to the one and `y` to the other, to which the frame
`f` comes after `w`. -/
inductive Beside (x y : Bytes) (r s : Relay) : Prop where
  /-- Nothing of the frame has come. -/
  | before (hx : x <+: w) (hy : y = x)
    (hleads : ∃ fs, WireFrame.Leads limits.frame x fs r.wire.unread) (hsame : s = r)
  /-- The second has not read the frame; before it the same is left to both, up to a frame
  boundary. -/
  | apart (base : Relay) (part v : Bytes) (hx : x = w ++ v) (hy : y = w ++ part ++ v)
    (hpart : part <+: f.encode) (hlast : part = f.encode ∨ v = [])
    (hwhole : WireFrame.Whole limits.frame base.wire.unread) (hr : r = base.fed v)
    (hs : s = base.fed (part ++ v))
  /-- The second has read the frame. -/
  | behind {v : Bytes} (hx : x = w ++ v) (hy : y = w ++ f.encode ++ v) (hsame : s = r)

/-- Two relays side by side that have done the same, except that the second may have answered the
frame. -/
structure InStep (x y : Bytes) (X Y : Relay × Traffic) : Prop where
  running : X.1.cause = none → Beside limits w f x y X.1 Y.1 ∧ X.1.limits = limits ∧
    X.1.wire.dropped = false
  relay : Y.1 = { X.1 with wire := { X.1.wire with unread := Y.1.wire.unread } }
  frames : X.2.frames.Sublist Y.2.frames
  besides : Y.2.besides = X.2.besides
  writes : Y.2.writes = X.2.writes

variable {limits w f} {x y a b : Bytes} {r s : Relay} {X Y X' Y' : Relay × Traffic}

/-- More octets that come to both, before any of the frame has. -/
theorem Beside.fed_before (hw : WireFrame.Whole limits.frame w) (hx : x <+: w)
    (hleads : ∃ fs, WireFrame.Leads limits.frame x fs r.wire.unread)
    (hmore : Inserted w f.encode (x ++ a) (x ++ b)) :
    Beside limits w f (x ++ a) (x ++ b) (r.fed a) (r.fed b) := by
  obtain ⟨fs, hleads⟩ := hleads
  obtain ⟨missing, rfl⟩ := hx
  have hwhole : WireFrame.Whole limits.frame (r.fed missing).wire.unread :=
    (hleads.append missing).whole hw
  cases hmore with
  | before hx hy =>
    rw [List.append_cancel_left hy]
    exact .before hx rfl ⟨fs, hleads.append a⟩ rfl
  | @coming first hfirst hx hy =>
    rw [List.append_assoc] at hy
    rw [List.append_cancel_left hx, List.append_cancel_left hy]
    refine .apart (r.fed missing) first [] ?_ ?_ hfirst (.inr rfl) hwhole ?_ ?_
    · rw [List.append_nil]
    · rw [List.append_nil, List.append_assoc]
    · rw [fed_nil]
    · rw [List.append_nil, fed_append]
  | @behind v hx hy =>
    rw [List.append_assoc] at hx
    rw [List.append_assoc, List.append_assoc] at hy
    rw [List.append_cancel_left hx, List.append_cancel_left hy]
    refine .apart (r.fed missing) f.encode v ?_ ?_ (List.prefix_refl _) (.inl rfl) hwhole ?_ ?_
    · rw [List.append_assoc]
    · rw [List.append_assoc, List.append_assoc]
    · rw [fed_append]
    · rw [fed_append]

/-- More octets that come to both, after some of the frame has, which is not read yet. -/
theorem Beside.fed_apart {base : Relay} {part v : Bytes}
    (hwhole : WireFrame.Whole limits.frame base.wire.unread)
    (hmore : Inserted w f.encode (w ++ v ++ a) (w ++ part ++ v ++ b)) :
    Beside limits w f (w ++ v ++ a) (w ++ part ++ v ++ b) ((base.fed v).fed a)
      ((base.fed (part ++ v)).fed b) := by
  rw [← fed_append, ← fed_append]
  rw [List.append_assoc w v a] at hmore ⊢
  rcases hmore.past with ⟨hnil, first, hfirst, hy⟩ | hy
  · -- more of the frame, or nothing
    obtain ⟨rfl, rfl⟩ := List.append_eq_nil_iff.mp hnil
    rw [List.append_nil, List.append_assoc] at hy
    rw [List.append_nil, List.append_nil, List.append_nil, List.append_assoc,
      List.append_cancel_left hy]
    exact .apart base first [] (List.append_nil w).symm (List.append_nil _).symm hfirst (.inr rfl)
      hwhole rfl (by rw [List.append_nil, List.append_nil, List.append_cancel_left hy])
  · -- the rest of the frame, and what comes behind it
    have hafter : w ++ (part ++ v ++ b) = w ++ (f.encode ++ (v ++ a)) := by
      rw [← List.append_assoc, ← List.append_assoc w, ← List.append_assoc w]
      exact hy
    rw [List.append_cancel_left hafter, hy]
    exact .apart base f.encode (v ++ a) rfl rfl (List.prefix_refl _) (.inl rfl) hwhole rfl rfl

/-- More octets that come to both, after the frame has been read. -/
theorem Beside.fed_behind {v : Bytes}
    (hmore : Inserted w f.encode (w ++ v ++ a) (w ++ f.encode ++ v ++ b)) :
    Beside limits w f (w ++ v ++ a) (w ++ f.encode ++ v ++ b) (r.fed a) (r.fed b) := by
  rw [List.append_assoc w v a] at hmore ⊢
  rcases hmore.past with ⟨hnil, first, hfirst, hy⟩ | hy
  · obtain ⟨rfl, rfl⟩ := List.append_eq_nil_iff.mp hnil
    rw [List.append_nil, List.append_assoc] at hy
    rw [← List.append_cancel_left hy] at hfirst
    -- the whole frame has come, so that no more of it can
    have hb : b = [] := by
      have hlength := hfirst.length_le
      rw [List.length_append] at hlength
      exact List.length_eq_zero_iff.mp (by omega)
    subst hb
    exact .behind (v := []) rfl (by rw [List.append_nil]) rfl
  · have hb : b = a := by
      rw [← List.append_assoc] at hy
      exact List.append_cancel_left hy
    subst hb
    exact .behind rfl hy rfl

/-- More octets that come to both. -/
theorem Beside.fed (hw : WireFrame.Whole limits.frame w) (h : Beside limits w f x y r s)
    (hmore : Inserted w f.encode (x ++ a) (y ++ b)) :
    Beside limits w f (x ++ a) (y ++ b) (r.fed a) (s.fed b) := by
  cases h with
  | before hx hy hleads hsame =>
    subst hy hsame
    exact fed_before hw hx hleads hmore
  | apart base part v hx hy hpart hlast hwhole hr hs =>
    subst hx hy hr hs
    exact fed_apart hwhole hmore
  | behind hx hy hsame =>
    subst hx hy hsame
    exact fed_behind hmore

namespace InStep

/-- Relays that do the same. -/
theorem refl (t : Traffic) (h : r.cause = none → Beside limits w f x y r r ∧ r.limits = limits ∧
    r.wire.dropped = false) : InStep limits w f x y (r, t) (r, t) :=
  ⟨h, rfl, List.Sublist.refl _, rfl, rfl⟩

/-- Relays that were in step and are so again have been in between. -/
theorem after {x' y' : Bytes} (h : InStep limits w f x' y' X Y)
    (h' : InStep limits w f x y X' Y') :
    InStep limits w f x y (X'.1, X.2.followedBy X'.2) (Y'.1, Y.2.followedBy Y'.2) where
  running := h'.running
  relay := h'.relay
  frames := h.frames.append h'.frames
  besides := by rw [Traffic.besides_followedBy, Traffic.besides_followedBy, h.besides, h'.besides]
  writes := by rw [Traffic.writes_followedBy, Traffic.writes_followedBy, h.writes, h'.writes]

theorem cause (h : InStep limits w f x y X Y) : Y.1.cause = X.1.cause := by
  rw [h.relay]

/-- Relays in step go on in step. -/
theorem andThen {next : Relay → Relay × Traffic} (h : InStep limits w f x y X Y)
    (hnext : X.1.cause = none → InStep limits w f x y (next X.1) (next Y.1)) :
    InStep limits w f x y (andThen X next) (andThen Y next) := by
  unfold Relay.andThen
  rw [h.cause]
  cases hcause : X.1.cause with
  | some cause => exact h
  | none => exact h.after (hnext hcause)

end InStep

/-! ### One step of both -/

/-- What a relay goes on with by its moves keeps relays in step, if it does so while the second
has not read the frame. -/
theorem Beside.go {next : Relay → Relay × Traffic} (h : Beside limits w f x y r s)
    (hrun : r.cause = none) (hlimits : r.limits = limits) (hopen : r.wire.dropped = false)
    (hmoves : ∀ q : Relay, q.cause = none → Moves q (next q).2 (next q).1)
    (hapart : ∀ (base : Relay) (part v : Bytes), part <+: f.encode → part = f.encode ∨ v = [] →
      WireFrame.Whole limits.frame base.wire.unread → base.cause = none → base.limits = limits →
      base.wire.dropped = false →
      InStep limits w f (w ++ v) (w ++ part ++ v) (next (base.fed v)) (next (base.fed (part ++ v)))) :
    InStep limits w f x y (next r) (next s) := by
  have hkeeps := (hmoves r hrun).keeps
  have hlimits' : (next r).1.limits = limits := hkeeps.limits.trans hlimits
  have hopen' : (next r).1.wire.dropped = false := hkeeps.dropped.trans hopen
  cases h with
  | before hx hy hleads hsame =>
    subst hsame
    obtain ⟨fs, hleads⟩ := hleads
    obtain ⟨gs, hmore⟩ := (hmoves s hrun).leads
    rw [hlimits] at hmore
    exact .refl _ fun _ => ⟨.before hx hy ⟨_, hleads.trans hmore⟩ rfl, hlimits', hopen'⟩
  | apart base part v hx hy hpart hlast hwhole hr hs =>
    subst hx hy hr hs
    exact hapart base part v hpart hlast hwhole hrun hlimits hopen
  | behind hx hy hsame =>
    subst hsame
    exact .refl _ fun _ => ⟨.behind hx hy rfl, hlimits', hopen'⟩

/-- A step that does not depend on what comes later keeps relays in step. -/
theorem Beside.step_fed {next : Relay → Relay × Traffic} (h : Beside limits w f x y r s)
    (hrun : r.cause = none) (hlimits : r.limits = limits) (hopen : r.wire.dropped = false)
    (hmoves : ∀ q : Relay, q.cause = none → Moves q (next q).2 (next q).1)
    (hfed : ∀ (q : Relay) (octets : Bytes),
      next (q.fed octets) = ((next q).1.fed octets, (next q).2)) :
    InStep limits w f x y (next r) (next s) := by
  refine h.go hrun hlimits hopen hmoves ?_
  intro base part v hpart hlast hwhole hrun hlimits hopen
  have hkeeps := (hmoves base hrun).keeps
  obtain ⟨gs, hleads⟩ := (hmoves base hrun).leads
  rw [hlimits] at hleads
  rw [hfed, hfed]
  refine ⟨fun _ => ⟨?_, hkeeps.limits.trans hlimits, hkeeps.dropped.trans hopen⟩, rfl,
    List.Sublist.refl _, rfl, rfl⟩
  exact .apart (next base).1 part v rfl rfl hpart hlast (hleads.whole hwhole) rfl rfl

/-- An event that is nothing new from the other end keeps relays side by side. -/
theorem Beside.absorb (h : Beside limits w f x y r s) {e : Event}
    (he : ∀ data, e ≠ .remoteBytes data) : Beside limits w f x y (r.absorb e) (s.absorb e) := by
  have hunread (q : Relay) : (q.absorb e).wire.unread = q.wire.unread := by
    have hoctets : e.octets = [] := by
      cases e with
      | remoteBytes data => exact absurd rfl (he data)
      | _ => rfl
    rw [absorb_unread, hoctets, ite_self, List.append_nil]
  cases h with
  | before hx hy hleads hsame =>
    subst hsame
    refine .before hx hy ?_ rfl
    rw [hunread]
    exact hleads
  | apart base part v hx hy hpart hlast hwhole hr hs =>
    subst hr hs
    rw [absorb_fed base v he, absorb_fed base (part ++ v) he]
    refine .apart (base.absorb e) part v hx hy hpart hlast ?_ rfl rfl
    rw [hunread]
    exact hwhole
  | behind hx hy hsame =>
    subst hsame
    exact .behind hx hy rfl

theorem absorb_limits (q : Relay) (e : Event) : (q.absorb e).limits = q.limits := by
  rw [absorb_eq]

theorem absorb_present {q : Relay} (h : q.wire.dropped = false) {e : Event}
    (he : e ≠ .remoteDrop) : (q.absorb e).wire.dropped = false := by
  cases e with
  | remoteDrop => exact absurd rfl he
  | remoteBytes data => simp [Relay.absorb, h]
  | _ => exact h

theorem Beside.dropped (h : Beside limits w f x y r s) : s.wire.dropped = r.wire.dropped := by
  cases h with
  | before hx hy hleads hsame => rw [hsame]
  | apart base part v hx hy hpart hlast hwhole hr hs =>
    rw [hr, hs]
    rfl
  | behind hx hy hsame => rw [hsame]

namespace InStep

theorem ends_iff (h : InStep limits w f x y X Y) : Y.1.cause = none ↔ X.1.cause = none := by
  rw [h.cause]

/-- Both relays end. -/
theorem finish (h : InStep limits w f x y X Y) (hrun : X.1.cause = none) (cause : Cause) :
    InStep limits w f x y (X.1.finish cause) (Y.1.finish cause) := by
  have hsame : (Y.1.finish cause).2 = (X.1.finish cause).2 := by
    unfold Relay.finish
    rw [(h.running hrun).1.dropped]
  have hrelay := congrArg (fun q => (q.finish cause).1) h.relay
  refine ⟨nofun, hrelay, ?_, ?_, ?_⟩
  · rw [hsame]
  · rw [hsame]
  · rw [hsame]

end InStep

section Inward

variable (hf : f.Interlude) (hfits : f.payload.length ≤ limits.frame)

include hf hfits

section Base

variable {base : Relay} (hlimits : base.limits = limits) (hopen : base.wire.dropped = false)

include hlimits hopen

/-- A relay that waits for the other end reads the frame, and may answer it. -/
theorem takeIn_interlude (hheld : base.held = none) (hnil : base.wire.unread = []) (v : Bytes) :
    ∃ answer : Traffic, (base.fed (f.encode ++ v)).takeIn = some (base.fed v, answer) ∧
      answer.besides = [] ∧ answer.writes = [] := by
  have hunread : (base.fed (f.encode ++ v)).wire.unread = f.encode ++ v := by
    show base.wire.unread ++ (f.encode ++ v) = _
    rw [hnil, List.nil_append]
  have hafter : (base.fed (f.encode ++ v)).past base.pending v = base.fed v := by
    show { base with wire := { base.wire with unread := v } } = base.fed v
    rw [Relay.fed, hnil, List.nil_append]
  have hinterlude : ∃ message,
      acceptFrame limits.message base.pending f = .ok (base.pending, some message) ∧
        completed (some message) = [] ∧ ∀ reply, message ≠ .close reply := acceptFrame_interlude hf
  obtain ⟨message, haccept, hcompleted, hclose⟩ := hinterlude
  have hread : Intake.read base.limits base.pending (f.encode ++ v)
      = .frame base.pending (some message) v := by
    rw [hlimits]
    exact Intake.read_eq_frame.mpr ⟨f, WireFrame.read_encode (hf.readable hfits) v, haccept⟩
  have htake : (base.fed (f.encode ++ v)).takeIn
      = some ((base.fed v).react (some message)) := by
    have hheld' : (base.fed (f.encode ++ v)).held = none := hheld
    have hlimits' : (base.fed (f.encode ++ v)).limits = base.limits := rfl
    have hpending : (base.fed (f.encode ++ v)).pending = base.pending := rfl
    unfold takeIn
    rw [hheld']
    show (base.fed (f.encode ++ v)).readNext = _
    unfold readNext
    rw [hunread, hlimits', hpending, hread]
    show some (((base.fed (f.encode ++ v)).past base.pending v).react (some message)) = _
    rw [hafter]
  cases message with
  | data kind payload => cases hcompleted
  | close reply => exact absurd rfl (hclose reply)
  | pong payload => exact ⟨Traffic.none, htake, rfl, rfl⟩
  | ping payload =>
    have hopen' : (base.fed v).wire.dropped = false := hopen
    refine ⟨Traffic.frame (.whole .pong payload), ?_, rfl, rfl⟩
    rw [htake]
    simp [react, hopen']

variable {part v : Bytes} (hpart : part <+: f.encode) (hlast : part = f.encode ∨ v = [])
  (hwhole : WireFrame.Whole limits.frame base.wire.unread) (hrun : base.cause = none)

include hpart hlast hwhole hrun

/-- The frame comes to a relay that has nothing to do. -/
theorem inward_idle_apart (hidle : base.takeIn = none) :
    InStep limits w f (w ++ v) (w ++ part ++ v) (base.fed v).inward
      (base.fed (part ++ v)).inward := by
  have hstay (t : Traffic) : InStep limits w f (w ++ v) (w ++ part ++ v) (base.fed v, t)
      (base.fed (part ++ v), t) :=
    ⟨fun _ => ⟨.apart base part v rfl rfl hpart hlast hwhole rfl rfl, hlimits, hopen⟩, rfl,
      List.Sublist.refl _, rfl, rfl⟩
  rcases takeIn_eq_none.mp hidle with ⟨payload, hheld, hblocked⟩ | ⟨hheld, hread, -⟩
  · -- behind a message that the application does not take both have to wait
    have hwaits (octets : Bytes) : (base.fed octets).takeIn = none :=
      takeIn_eq_none.mpr (.inl ⟨payload, hheld, hblocked⟩)
    rw [inward_none (hwaits v), inward_none (hwaits (part ++ v))]
    exact hstay Traffic.none
  · rw [hlimits] at hread
    have hnil := hwhole.eq_nil (Intake.read_eq_incomplete.mp hread)
    by_cases hfull : part = f.encode
    · -- the second reads the frame and goes on like the first
      subst hfull
      obtain ⟨answer, htake, hbesides, hwrites⟩ :=
        takeIn_interlude hf hfits hlimits hopen hheld hnil v
      have hrun' : (base.fed v).cause = none := hrun
      have hsecond : (base.fed (f.encode ++ v)).inward
          = ((base.fed v).inward.1, answer.followedBy (base.fed v).inward.2) := by
        rw [inward_some htake]
        simp [Relay.andThen, hrun']
      have hkeeps := (inward_moves hrun').keeps
      rw [hsecond]
      refine ⟨fun _ => ⟨.behind rfl rfl rfl, hkeeps.limits.trans hlimits,
        hkeeps.dropped.trans hopen⟩, rfl, ?_, ?_, ?_⟩
      · exact List.sublist_append_right _ _
      · rw [Traffic.besides_followedBy, hbesides, List.nil_append]
      · rw [Traffic.writes_followedBy, hwrites, List.nil_append]
    · -- octets of the frame are missing
      obtain rfl : v = [] := hlast.resolve_left hfull
      have hunfinished : (base.fed (part ++ [])).takeIn = none := by
        refine takeIn_eq_none.mpr (.inr ⟨hheld, ?_, hopen⟩)
        show Intake.read base.limits base.pending (base.wire.unread ++ (part ++ [])) = _
        rw [hlimits, hnil, List.nil_append, List.append_nil]
        exact Intake.read_eq_incomplete.mpr
          (WireFrame.read_unfinished (hf.readable hfits) hpart hfull)
      have hidle' : (base.fed []).takeIn = none := by rwa [fed_nil]
      rw [inward_none hidle', inward_none hunfinished]
      exact hstay Traffic.none

/-- The frame comes to a relay that has more to do before. -/
theorem inward_apart :
    InStep limits w f (w ++ v) (w ++ part ++ v) (base.fed v).inward
      (base.fed (part ++ v)).inward := by
  have hkeeps := (inward_moves hrun).keeps
  have hlimits' := hkeeps.limits.trans hlimits
  have hopen' := hkeeps.dropped.trans hopen
  obtain ⟨gs, hleads⟩ := (inward_moves hrun).leads
  rw [hlimits] at hleads
  have hwhole' := hleads.whole hwhole
  rw [inward_fed hrun hopen, inward_fed hrun hopen]
  refine InStep.andThen (X := (base.inward.1.fed v, base.inward.2)) ⟨fun _ => ⟨?_, hlimits', hopen'⟩,
    rfl, List.Sublist.refl _, rfl, rfl⟩ fun hgoes => ?_
  · exact .apart base.inward.1 part v rfl rfl hpart hlast hwhole' rfl rfl
  · exact inward_idle_apart hf hfits hlimits' hopen' hpart hlast hwhole' hgoes (inward_idle hgoes)

end Base

/-- Relays side by side settle in step. -/
theorem Beside.settle (h : Beside limits w f x y r s) (hrun : r.cause = none)
    (hlimits : r.limits = limits) (hopen : r.wire.dropped = false) :
    InStep limits w f x y r.settle s.settle := by
  have houtward := h.step_fed hrun hlimits hopen (fun q hq => outward_moves hq) outward_fed
  have hinward := houtward.andThen fun hgoes =>
    (houtward.running hgoes).1.go hgoes (houtward.running hgoes).2.1 (houtward.running hgoes).2.2
      (fun q hq => inward_moves hq)
      fun base part v hpart hlast hwhole hrun hlimits hopen =>
        inward_apart hf hfits hlimits hopen hpart hlast hwhole hrun
  exact hinward.andThen fun hgoes =>
    (hinward.running hgoes).1.step_fed hgoes (hinward.running hgoes).2.1
      (hinward.running hgoes).2.2 (fun q hq => expire_moves hq) expire_fed

/-! ### Whole scripts -/

namespace InStep

/-- The same event for both. -/
theorem step (h : InStep limits w f x y X Y) {e : Event} (he : ∀ data, e ≠ .remoteBytes data)
    (hdrop : e ≠ .remoteDrop) :
    InStep limits w f x y ((X.1.step e).1, X.2.followedBy (X.1.step e).2)
      ((Y.1.step e).1, Y.2.followedBy (Y.1.step e).2) := by
  by_cases hrun : X.1.cause = none
  · have hrun' : Y.1.cause = none := h.ends_iff.mpr hrun
    obtain ⟨hbeside, hlimits, hopen⟩ := h.running hrun
    refine h.after ?_
    by_cases hcancel : e = .cancel
    · rw [hcancel, step_cancel hrun, step_cancel hrun']
      exact h.finish hrun .cancelled
    · rw [step_settle hrun hcancel, step_settle hrun' hcancel]
      exact (hbeside.absorb he).settle hf hfits ((absorb_cause _ e).trans hrun)
        ((absorb_limits _ e).trans hlimits) (absorb_present hopen hdrop)
  · have hrun' : Y.1.cause ≠ none := fun hcause => hrun (h.ends_iff.mp hcause)
    rw [step_ended hrun, step_ended hrun', Traffic.followedBy_none, Traffic.followedBy_none]
    exact h

variable (hw : WireFrame.Whole limits.frame w)

include hw

/-- Octets that come to both. -/
theorem step_both (h : InStep limits w f x y X Y)
    (hmore : Inserted w f.encode (x ++ a) (y ++ b)) :
    InStep limits w f (x ++ a) (y ++ b)
      ((X.1.step (.remoteBytes a)).1, X.2.followedBy (X.1.step (.remoteBytes a)).2)
      ((Y.1.step (.remoteBytes b)).1, Y.2.followedBy (Y.1.step (.remoteBytes b)).2) := by
  by_cases hrun : X.1.cause = none
  · have hrun' : Y.1.cause = none := h.ends_iff.mpr hrun
    obtain ⟨hbeside, hlimits, hopen⟩ := h.running hrun
    have hopen' : Y.1.wire.dropped = false := hbeside.dropped.trans hopen
    have hfirst : X.1.absorb (.remoteBytes a) = X.1.fed a := by simp [Relay.absorb, hopen, fed]
    have hsecond : Y.1.absorb (.remoteBytes b) = Y.1.fed b := by simp [Relay.absorb, hopen', fed]
    have hcancel (octets : Bytes) : Event.remoteBytes octets ≠ .cancel := by
      intro h
      cases h
    rw [step_settle hrun (hcancel a), step_settle hrun' (hcancel b), hfirst, hsecond]
    exact h.after ((hbeside.fed hw hmore).settle hf hfits hrun hlimits hopen)
  · have hrun' : Y.1.cause ≠ none := fun hcause => hrun (h.ends_iff.mp hcause)
    rw [step_ended hrun, step_ended hrun', Traffic.followedBy_none, Traffic.followedBy_none]
    exact ⟨fun hcause => absurd hcause hrun, h.relay, h.frames, h.besides, h.writes⟩

/-- Octets that come to the second alone. -/
theorem step_extra (h : InStep limits w f x y X Y) (hrest : X.1.cause = none → Settled X.1)
    (hmore : Inserted w f.encode x (y ++ b)) :
    InStep limits w f x (y ++ b) X
      ((Y.1.step (.remoteBytes b)).1, Y.2.followedBy (Y.1.step (.remoteBytes b)).2) := by
  -- the first has nothing to do about no octets
  have hnothing : X.1.step (.remoteBytes []) = (X.1, Traffic.none) := by
    by_cases hrun : X.1.cause = none
    · have hopen := (h.running hrun).2.2
      rw [(hrest hrun).step_remoteBytes hrun hopen, fed_nil, inward_none (hrest hrun).idle]
    · exact step_ended hrun _
  have hboth := h.step_both hf hfits hw (a := []) (b := b) (by rwa [List.append_nil])
  rwa [hnothing, Traffic.followedBy_none, List.append_nil] at hboth

/-- Relays in step stay so over scripts that are the same apart from the frame. -/
theorem run (h : InStep limits w f x y X Y) (hrest : X.1.cause = none → Settled X.1)
    {script other : List Event} (hscripts : Abreast (Inserted w f.encode) x y script other)
    (hdrop : .remoteDrop ∉ script) :
    ∃ x' y', InStep limits w f x' y' ((X.1.run script).1, X.2.followedBy (X.1.run script).2)
      ((Y.1.run other).1, Y.2.followedBy (Y.1.run other).2) := by
  induction hscripts generalizing X Y with
  | done x y =>
    refine ⟨x, y, ?_⟩
    simpa [Relay.run] using h
  | @same x y e es fs he rest ih =>
    rw [List.mem_cons, not_or] at hdrop
    simp only [Relay.run, ← Traffic.followedBy_assoc]
    exact ih (h.step hf hfits he (Ne.symm hdrop.1)) (fun hrun => step_settled hrun) hdrop.2
  | both hmore rest ih =>
    rw [List.mem_cons, not_or] at hdrop
    simp only [Relay.run, ← Traffic.followedBy_assoc]
    exact ih (h.step_both hf hfits hw hmore) (fun hrun => step_settled hrun) hdrop.2
  | extra hmore rest ih =>
    simp only [Relay.run, ← Traffic.followedBy_assoc]
    exact ih (h.step_extra hf hfits hw hrest hmore) hrest hdrop

end InStep

end Inward

end Interlude

/-- Two sessions are told apart by pongs alone, of which the second sends more: the relays have done
the same, and differ at most in what they have not read. -/
structure Indistinct (here there : Relay × Traffic) : Prop where
  result : there.1.result? = here.1.result?
  relay : there.1 = { here.1 with wire := { here.1.wire with unread := there.1.wire.unread } }
  writes : there.2.writes = here.2.writes
  besides : there.2.besides = here.2.besides
  frames : here.2.frames.Sublist there.2.frames

theorem Indistinct.refl (x : Relay × Traffic) : Indistinct x x :=
  ⟨rfl, rfl, rfl, rfl, List.Sublist.refl _⟩

theorem Indistinct.trans {x y z : Relay × Traffic} (h₁ : Indistinct x y) (h₂ : Indistinct y z) :
    Indistinct x z where
  result := h₂.result.trans h₁.result
  relay := by
    have hrelay := h₂.relay
    rw [h₁.relay] at hrelay
    exact hrelay
  writes := h₂.writes.trans h₁.writes
  besides := h₂.besides.trans h₁.besides
  frames := h₁.frames.trans h₂.frames

/-- One more ping or pong is told from nothing but its answer. -/
theorem session_interjected (limits : Limits) (deadline : Option Duration)
    {script other : List Event} (hdrop : .remoteDrop ∉ script)
    (h : Interjected limits.frame script other) :
    let begun : Relay := { limits := limits, deadline := deadline }
    Indistinct (begun.session script) (begun.session other) := by
  intro begun
  obtain ⟨w, f, hw, hf, hfits, hscripts⟩ := h
  have hbeside : Beside limits w f [] [] begun begun :=
    .before List.nil_prefix rfl ⟨[], .here []⟩ rfl
  have hbegun := hbeside.settle hf hfits rfl rfl rfl
  obtain ⟨x, y, hstep⟩ := hbegun.run hf hfits hw (fun hrun => settle_settled hrun) hscripts hdrop
  have hrelay : (begun.session other).1 = { (begun.session script).1 with
      wire := { (begun.session script).1.wire with
        unread := (begun.session other).1.wire.unread } } := hstep.relay
  refine ⟨?_, hrelay, hstep.writes, hstep.besides, hstep.frames⟩
  rw [hrelay]
  rfl

/-- Any number of pings and pongs may come at any frame boundaries, as long as the other end is
there: what is reported and counted, what the application takes, and what is sent apart from pongs
is the same. The pongs answer the pings that the relay has read before its end, in their order; a
relay that goes on and need not wait for the application has answered all that have come. -/
theorem session_interspersed (limits : Limits) (deadline : Option Duration)
    {script other : List Event} (hdrop : .remoteDrop ∉ script)
    (h : Relation.ReflTransGen (Interjected limits.frame) script other) :
    let begun : Relay := { limits := limits, deadline := deadline }
    let here := begun.session script
    let there := begun.session other
    Indistinct here there ∧
      (∃ front rest fs, other = front ++ rest ∧ begun.session front = there ∧
        (there.1.cause = none → rest = []) ∧
        WireFrame.Leads limits.frame (Event.arrived front) fs there.1.wire.unread ∧
        there.2.pongs = WireFrame.answers fs) ∧
      (there.1.cause = none → there.1.app.stalled = false →
        there.2.pongs = WireFrame.answers (WireFrame.all limits.frame (Event.arrived other))) := by
  intro begun here there
  have hmany : Indistinct here there ∧ .remoteDrop ∉ other := by
    induction h with
    | refl => exact ⟨.refl here, hdrop⟩
    | @tail mid last _ hone ih =>
      obtain ⟨hbefore, hmid⟩ := ih
      refine ⟨hbefore.trans (session_interjected limits deadline hmid hone), ?_⟩
      obtain ⟨w, f, -, -, -, hscripts⟩ := hone
      exact fun hmem => hmid (hscripts.remoteDrop.mp hmem)
  obtain ⟨hindistinct, hother⟩ := hmany
  obtain ⟨front, rest, hscript, hsame, hrest, hheard⟩ := session_heard limits deadline hother
  obtain ⟨fs, hleads, hpongs⟩ := hheard.answered
  refine ⟨hindistinct, ⟨front, rest, fs, hscript, hsame, hrest, hleads, hpongs⟩, ?_⟩
  intro hrun hstalled
  have hfront : front = other := by
    rw [hscript, hrest hrun, List.append_nil]
  rw [hfront] at hheard
  exact hheard.unstalled (session_settled hrun).idle hstalled

/-- A ping between the two frames of a message, which comes in two pieces of its own. -/
theorem session_interspersed_fragments :
    let script : List Event := [.remoteBytes [0x02, 1, 104], .remoteBytes [0x80, 1, 105]]
    let other : List Event :=
      [.remoteBytes [0x02, 1, 104, 0x89, 1], .remoteBytes [7], .remoteBytes [0x80, 1, 105]]
    let begun : Relay := { limits := {}, deadline := none }
    .remoteDrop ∉ script ∧ Relation.ReflTransGen (Interjected 16777216) script other ∧
      (begun.session other).1.result? = none ∧
      (begun.session other).2.writes = [[104, 105]] ∧
      (begun.session script).2.writes = [[104, 105]] ∧
      (begun.session other).2.pongs = [.whole .pong [7]] := by
  intro script other begun
  have hdrop : .remoteDrop ∉ script := by decide
  have hwhole : WireFrame.Whole 16777216 [0x02, 1, 104] :=
    ⟨[⟨false, 0, 2, none, [104]⟩], .frame (by decide) (.here [])⟩
  have hping : WireFrame.Interlude ⟨true, 0, 9, none, [7]⟩ := ⟨.inl ⟨rfl, rfl, rfl⟩, rfl, by decide⟩
  have hencode : WireFrame.encode ⟨true, 0, 9, none, [7]⟩ = [0x89, 1, 7] := by decide
  have hscripts : Abreast (Inserted [0x02, 1, 104] [0x89, 1, 7]) [] [] script other := by
    refine .both ?_ (.extra ?_ (.both ?_ (.done _ _)))
    · exact .coming (List.prefix_append [0x89, 1] [7]) rfl rfl
    · exact .coming (List.prefix_refl [0x89, 1, 7]) rfl rfl
    · exact .behind rfl rfl
  have hone : Interjected 16777216 script other :=
    ⟨[0x02, 1, 104], ⟨true, 0, 9, none, [7]⟩, hwhole, hping, by decide, by rwa [hencode]⟩
  have hmany : Relation.ReflTransGen (Interjected 16777216) script other := .single hone
  have hgoes : (begun.session other).1.result? = none := by decide +kernel
  have hwrites : (begun.session other).2.writes = [[104, 105]] := by decide +kernel
  obtain ⟨hindistinct, -, hanswered⟩ := session_interspersed {} none hdrop hmany
  refine ⟨hdrop, hmany, hgoes, hwrites, hindistinct.writes ▸ hwrites, ?_⟩
  rw [hanswered (result?_eq_none.mp hgoes) (by decide +kernel)]
  decide +kernel

end Relay

end Carrier
