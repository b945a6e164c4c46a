import Carrier.Proofs.Relay.Inbound
import Carrier.Proofs.Relay.Segmentation
import Carrier.Proofs.WebSocket.Boundary

/-!
# What is put into a stream

- `Inserted`: how much has come of a stream, and of the stream with something put in.
- `Abreast`: scripts that bring two streams and are the same otherwise.
- `Interjected`: scripts of which one has one more ping or pong, at a frame boundary.
- `Relay.outward_fed`, `Relay.expire_fed`, `Relay.absorb_fed`: what does not depend on the octets
  that come later.
- `Relay.Moves.leads`: the moves of a relay lead from one frame boundary to another.
-/

namespace Carrier

/-- How much has come of two streams that are the same, except that in the second `part` is put in
after `w`. -/
inductive Inserted (w part x y : Bytes) : Prop where
  /-- Not more than what is in front. -/
  | before (hx : x <+: w) (hy : y = x)
  /-- All that is in front, and some of what is put in. -/
  | coming {first : Bytes} (hfirst : first <+: part) (hx : x = w) (hy : y = w ++ first)
  /-- All that is put in, and what comes then. -/
  | behind {v : Bytes} (hx : x = w ++ v) (hy : y = w ++ part ++ v)

/-- `Abreast R x y script other`: after `x` and `y` have come from the other end, the scripts
bring octets so that what has come is related by `R` all the time, and are the same otherwise. -/
inductive Abreast (R : Bytes → Bytes → Prop) : Bytes → Bytes → List Event → List Event → Prop where
  | done (x y : Bytes) : Abreast R x y [] []
  | same {x y : Bytes} {e : Event} {es fs : List Event} (he : ∀ data, e ≠ .remoteBytes data)
    (rest : Abreast R x y es fs) : Abreast R x y (e :: es) (e :: fs)
  | both {x y a b : Bytes} {es fs : List Event} (h : R (x ++ a) (y ++ b))
    (rest : Abreast R (x ++ a) (y ++ b) es fs) :
    Abreast R x y (.remoteBytes a :: es) (.remoteBytes b :: fs)
  | extra {x y b : Bytes} {es fs : List Event} (h : R x (y ++ b))
    (rest : Abreast R x (y ++ b) es fs) : Abreast R x y es (.remoteBytes b :: fs)

/-- The second script is the first with one more ping or pong within the limit, which the other end
sends at a frame boundary; in which pieces the octets come does not matter. -/
def Interjected (limit : Nat) (script other : List Event) : Prop :=
  ∃ (w : Bytes) (f : WireFrame), WireFrame.Whole limit w ∧ f.Interlude ∧ f.payload.length ≤ limit ∧
    Abreast (Inserted w f.encode) [] [] script other

/-- When all that is in front has come, some of what is put in has, or all of it. -/
theorem Inserted.past {w part v y : Bytes} (h : Inserted w part (w ++ v) y) :
    (v = [] ∧ ∃ first, first <+: part ∧ y = w ++ first) ∨ y = w ++ part ++ v := by
  cases h with
  | before hx hy =>
    have hnil : v = [] := by
      have hlength := hx.length_le
      rw [List.length_append] at hlength
      exact List.length_eq_zero_iff.mp (by omega)
    subst hnil
    exact .inl ⟨rfl, [], List.nil_prefix, hy⟩
  | @coming first hfirst hx hy =>
    have hnil : v = [] := List.append_right_eq_self.mp hx
    exact .inl ⟨hnil, first, hfirst, hy⟩
  | behind hx hy =>
    rw [List.append_cancel_left hx]
    exact .inr hy

theorem Abreast.remoteDrop {R : Bytes → Bytes → Prop} {x y : Bytes} {script other : List Event}
    (h : Abreast R x y script other) : .remoteDrop ∈ other ↔ .remoteDrop ∈ script := by
  induction h with
  | done => exact Iff.rfl
  | same he rest ih => simp [ih]
  | both h rest ih => simp [ih]
  | extra h rest ih => simp [ih]

namespace Relay

/-! ### What comes later -/

theorem outward_fed (r : Relay) (octets : Bytes) :
    (r.fed octets).outward = (r.outward.1.fed octets, r.outward.2) := by
  have hsend (r : Relay) (pieces : List Bytes) :
      (r.fed octets).send pieces = ((r.send pieces).1.fed octets, (r.send pieces).2) := by
    induction pieces generalizing r with
    | nil =>
      have happ : (r.fed octets).app = r.app := rfl
      simp only [send, happ]
      split <;> rfl
    | cons piece rest ih =>
      cases hdrop : r.wire.dropped with
      | true =>
        have hne := List.cons_ne_nil piece rest
        rw [send_dropped r _ hdrop hne, send_dropped (r.fed octets) _ hdrop hne]
        rfl
      | false =>
        have hopen : (r.fed octets).wire.dropped = false := hdrop
        have hrest := ih (r.credited piece.length)
        rw [send_cons rest hdrop, send_cons rest hopen]
        change ((r.fed octets).credited piece.length).send rest = _ at hrest
        rw [hrest]
  exact hsend r.emptied r.outgoing

theorem expire_fed (r : Relay) (octets : Bytes) :
    (r.fed octets).expire = (r.expire.1.fed octets, r.expire.2) := by
  have hdeadline : (r.fed octets).deadline = r.deadline := rfl
  have helapsed : (r.fed octets).elapsed = r.elapsed := rfl
  unfold expire
  rw [hdeadline, helapsed]
  cases r.deadline with
  | none => rfl
  | some limit =>
    simp only
    split <;> rfl

/-- An event that brings no octets leaves those that come later alone. -/
theorem absorb_fed (r : Relay) (octets : Bytes) {e : Event} (he : ∀ data, e ≠ .remoteBytes data) :
    (r.fed octets).absorb e = (r.absorb e).fed octets := by
  cases e with
  | remoteBytes data => exact absurd rfl (he data)
  | _ => rfl

/-- Moves read frames. -/
theorem Moves.leads {r q : Relay} {t : Traffic} (h : Moves r t q) :
    ∃ fs, WireFrame.Leads r.limits.frame r.wire.unread fs q.wire.unread := by
  induction h with
  | refl r => exact ⟨[], .here _⟩
  | @next r s q t u hrun hmove hrest ih =>
    obtain ⟨fs, hleads⟩ := ih
    rw [hmove.keeps.limits] at hleads
    suffices hfirst : ∃ gs, WireFrame.Leads r.limits.frame r.wire.unread gs s.wire.unread by
      obtain ⟨gs, hfirst⟩ := hfirst
      exact ⟨gs ++ fs, hfirst.trans hleads⟩
    have hframe {pending : Option Fragments} {message : Option Message} {rest : Bytes}
        (hread : r.Reads pending message rest) :
        ∃ gs, WireFrame.Leads r.limits.frame r.wire.unread gs rest := by
      obtain ⟨f, hframe, -⟩ := Intake.read_eq_frame.mp hread.2
      exact ⟨[f], .frame hframe (.here rest)⟩
    cases hmove with
    | skipped hread hnone => exact hframe hread
    | answered hread hopen => exact hframe hread
    | received hread => exact hframe hread
    | ended hend =>
      cases hend with
      | pongFailed hread hdrop => exact hframe hread
      | remoteClosed hread => exact hframe hread
      | _ => exact ⟨[], .here _⟩
    | _ => exact ⟨[], .here _⟩

end Relay

end Carrier
