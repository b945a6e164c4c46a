import Carrier.Proofs.Dial.Stages
import Carrier.Proofs.Upgrade.Answer
import Mathlib.Data.List.Induction

/-!
# What is heard of an answer

An answer comes in writes, and each write in pieces. What comes of it depends on the octets alone,
unless it is given up for the number and the size of its pieces. It is known when the first write
has come that makes the octets more than a beginning, or when the connection ends.

- `Arrival.GivenUp`, `Arrival.Pending`, `Arrival.Settles`: what comes of an answer in pieces.
- `Origin.Heard`: what is heard of the answer of an origin, and after how long.
- `Arrival.listen_eq_after_iff`: hearing is what the reader of writes does.
- `Origin.Heard.outcome`: what is heard of octets, whatever their writes are.
-/

namespace Carrier

namespace Arrival

/-- An answer of which these pieces have come. -/
def of (pieces : List Bytes) : Arrival := ⟨pieces.length, pieces.flatten⟩

/-- An answer is given up at one of its pieces, while nothing has come of those in front of it. -/
def GivenUp (pieces : List Bytes) : Prop :=
  ∃ front piece rest, pieces = front ++ piece :: rest ∧
    UpgradeAnswer.read front.flatten = .unfinished ∧ (of (front ++ [piece])).isAttack = true

/-- Pieces are but the beginning of an answer. -/
structure Pending (pieces : List Bytes) : Prop where
  /-- It has not been given up. -/
  kept : ¬ GivenUp pieces
  /-- There is more to come. -/
  unfinished : UpgradeAnswer.read pieces.flatten = .unfinished

/-- `Settles pieces result`: this comes of the pieces of an answer, and what follows it. -/
inductive Settles (pieces : List Bytes) : Except UpgradeFault (UpgradeAnswer × Bytes) → Prop where
  /-- It is given up. -/
  | givenUp (attack : GivenUp pieces) : Settles pieces (.error .attack)
  /-- Its text is malformed. -/
  | refused {fault : AnswerFault} (kept : ¬ GivenUp pieces)
    (read : UpgradeAnswer.read pieces.flatten = .refused fault) :
    Settles pieces (.error (.malformed fault))
  /-- It is complete. -/
  | found {answer : UpgradeAnswer} {early : Bytes} (kept : ¬ GivenUp pieces)
    (read : UpgradeAnswer.read pieces.flatten = .found answer early) :
    Settles pieces (.ok (answer, early))

theorem of_concat (pieces : List Bytes) (piece : Bytes) :
    (of pieces).add piece = of (pieces ++ [piece]) := by
  simp [of, add]

theorem GivenUp.append {pieces : List Bytes} (h : GivenUp pieces) (more : List Bytes) :
    GivenUp (pieces ++ more) := by
  obtain ⟨front, piece, rest, rfl, hopen, hattack⟩ := h
  exact ⟨front, piece, rest ++ more, by simp, hopen, hattack⟩

theorem pending_or_settles (pieces : List Bytes) :
    Pending pieces ∨ ∃ result, Settles pieces result := by
  by_cases hgiven : GivenUp pieces
  · exact .inr ⟨_, .givenUp hgiven⟩
  · cases hread : UpgradeAnswer.read pieces.flatten with
    | unfinished => exact .inl ⟨hgiven, hread⟩
    | refused fault => exact .inr ⟨_, .refused hgiven hread⟩
    | found answer early => exact .inr ⟨_, .found hgiven hread⟩

/-- An answer in few pieces that is not too long is not given up. -/
theorem not_givenUp {pieces : List Bytes} (hpieces : pieces.length ≤ 64)
    (hoctets : pieces.flatten.length ≤ 65536) : ¬ GivenUp pieces := by
  rintro ⟨front, piece, rest, rfl, -, hattack⟩
  simp [isAttack, of] at hattack
  simp at hpieces hoctets
  omega

section Taking

variable {front pieces : List Bytes} {piece : Bytes}

/-- Behind the beginning of an answer it is given up at the next piece, or at one behind it, of
which nothing has come either. -/
theorem GivenUp.cases (h : GivenUp (front ++ piece :: pieces)) (hfront : Pending front) :
    (of (front ++ [piece])).isAttack = true ∨
      UpgradeAnswer.read (front ++ [piece]).flatten = .unfinished ∧ pieces ≠ [] := by
  obtain ⟨before, last, rest, hpieces, hopen, hattack⟩ := h
  rcases List.append_eq_append_iff.mp hpieces with ⟨more, rfl, hmore⟩ | ⟨more, rfl, hmore⟩
  · cases more with
    | nil =>
      obtain ⟨rfl, -⟩ := List.cons.inj hmore
      rw [List.append_nil] at hattack
      exact .inl hattack
    | cons next more =>
      obtain ⟨rfl, rfl⟩ := List.cons.inj hmore
      have hsplit : front ++ piece :: more = (front ++ [piece]) ++ more := by simp
      rw [hsplit, List.flatten_append] at hopen
      exact .inr ⟨UpgradeAnswer.steady_read.unfinished hopen, by simp⟩
  · cases more with
    | nil =>
      obtain ⟨rfl, -⟩ := List.cons.inj hmore
      rw [List.append_nil]
      exact .inl hattack
    | cons next more =>
      obtain ⟨rfl, -⟩ := List.cons.inj hmore
      exact absurd ⟨before, last, more, rfl, hopen, hattack⟩ hfront.kept

theorem Settles.not_pending {result : Except UpgradeFault (UpgradeAnswer × Bytes)}
    (h : Settles pieces result) : ¬ Pending pieces := by
  intro hpending
  cases h with
  | givenUp attack => exact hpending.kept attack
  | refused kept read => cases hpending.unfinished.symm.trans read
  | found kept read => cases hpending.unfinished.symm.trans read

theorem Settles.unique {result other : Except UpgradeFault (UpgradeAnswer × Bytes)}
    (h : Settles pieces result) (hother : Settles pieces other) : result = other := by
  cases h with
  | givenUp attack =>
    cases hother with
    | givenUp _ => rfl
    | refused kept _ => exact absurd attack kept
    | found kept _ => exact absurd attack kept
  | refused kept read =>
    cases hother with
    | givenUp attack => exact absurd attack kept
    | refused _ again =>
      cases read.symm.trans again
      rfl
    | found _ again => cases read.symm.trans again
  | found kept read =>
    cases hother with
    | givenUp attack => exact absurd attack kept
    | refused _ again => cases read.symm.trans again
    | found _ again =>
      cases read.symm.trans again
      rfl

/-- The beginning of the beginning of an answer is one. -/
theorem Pending.of_append {more : List Bytes} (h : Pending (pieces ++ more)) : Pending pieces := by
  refine ⟨fun hgiven => h.kept (hgiven.append more), ?_⟩
  have hread := h.unfinished
  rw [List.flatten_append] at hread
  exact UpgradeAnswer.steady_read.unfinished hread

/-- What pieces come to behind the beginning of an answer is what all of them come to. -/
theorem takePieces_cases (hfront : Pending front) (pieces : List Bytes) :
    (Pending (front ++ pieces) ∧
        (of front).takePieces pieces = .ok (.inl (of (front ++ pieces)))) ∨
      ∃ result, Settles (front ++ pieces) result ∧
        (of front).takePieces pieces = result.map .inr := by
  induction pieces generalizing front with
  | nil =>
    rw [List.append_nil]
    exact .inl ⟨hfront, rfl⟩
  | cons piece pieces ih =>
    have hsplit : front ++ piece :: pieces = (front ++ [piece]) ++ pieces := by simp
    have hoctets : (front ++ piece :: pieces).flatten
        = (front ++ [piece]).flatten ++ pieces.flatten := by simp
    simp only [takePieces, of_concat]
    by_cases hattack : (of (front ++ [piece])).isAttack = true
    · rw [if_pos hattack]
      exact .inr ⟨_, .givenUp ⟨front, piece, pieces, rfl, hfront.unfinished, hattack⟩, rfl⟩
    · rw [if_neg hattack]
      -- an answer of which something has come is not given up for the pieces that follow
      have hkept (hread : UpgradeAnswer.read (front ++ [piece]).flatten ≠ .unfinished) :
          ¬ GivenUp (front ++ piece :: pieces) := fun h =>
        (h.cases hfront).elim hattack fun h => hread h.1
      cases hread : UpgradeAnswer.read (of (front ++ [piece])).octets with
      | refused fault =>
        refine .inr ⟨_, .refused (hkept fun h => ?_) ?_, rfl⟩
        · cases hread.symm.trans h
        · rw [hoctets]
          exact UpgradeAnswer.steady_read.refused hread _
      | found answer after =>
        refine .inr ⟨_, .found (hkept fun h => ?_) ?_, rfl⟩
        · cases hread.symm.trans h
        · rw [hoctets]
          exact UpgradeAnswer.steady_read.found hread _
      | unfinished =>
        rw [hsplit]
        refine ih ⟨fun h => ?_, hread⟩
        exact (h.cases hfront).elim hattack fun h => h.2 rfl

theorem takePieces_pending (hfront : Pending front) (h : Pending (front ++ pieces)) :
    (of front).takePieces pieces = .ok (.inl (of (front ++ pieces))) := by
  rcases takePieces_cases hfront pieces with ⟨-, htake⟩ | ⟨result, hsettles, -⟩
  · exact htake
  · exact absurd h hsettles.not_pending

theorem takePieces_settles {result : Except UpgradeFault (UpgradeAnswer × Bytes)}
    (hfront : Pending front) (h : Settles (front ++ pieces) result) :
    (of front).takePieces pieces = result.map .inr := by
  rcases takePieces_cases hfront pieces with ⟨hpending, -⟩ | ⟨other, hsettles, htake⟩
  · exact absurd hpending h.not_pending
  · rw [htake, h.unique hsettles]

end Taking

end Arrival

/-! ### Writes -/

/-- The pieces in which writes come. -/
def piecesOf (writes : List (Duration × Bytes)) : List Bytes :=
  writes.flatMap fun write => Bytes.pieces Arrival.pieceSize write.2

/-- How long writes take. -/
def span : List (Duration × Bytes) → Duration
  | [] => ⟨0⟩
  | (wait, _) :: writes => wait + span writes

/-- The octets of writes. -/
def octetsOf (writes : List (Duration × Bytes)) : Bytes := writes.flatMap (·.2)

/-- What the end of a connection is to an answer that is not complete. -/
def AnswerEnd.fault? : AnswerEnd → Option UpgradeFault
  | .silence => none
  | .close _ => some .unfinished
  | .failed _ fault => some (.io fault)

open Arrival

/-- `Heard origin wait result`: so long after the request was sent, this is known of the answer. -/
inductive Origin.Heard (origin : Origin) :
    Duration → Except UpgradeFault (UpgradeAnswer × Bytes) → Prop where
  /-- A write settles it. -/
  | settled {before later : List (Duration × Bytes)} {wait : Duration} {bytes : Bytes}
    {result : Except UpgradeFault (UpgradeAnswer × Bytes)}
    (writes : origin.writes = before ++ (wait, bytes) :: later)
    (pending : Pending (piecesOf before))
    (settles : Settles (piecesOf (before ++ [(wait, bytes)])) result) :
    Heard origin (span before + wait) result
  /-- The connection is closed first. -/
  | closed {wait : Duration} (pending : Pending (piecesOf origin.writes))
    (last : origin.last = .close wait) :
    Heard origin (span origin.writes + wait) (.error .unfinished)
  /-- The connection fails first. -/
  | failed {wait : Duration} {fault : IoFault} (pending : Pending (piecesOf origin.writes))
    (last : origin.last = .failed wait fault) :
    Heard origin (span origin.writes + wait) (.error (.io fault))

theorem piecesOf_append (writes more : List (Duration × Bytes)) :
    piecesOf (writes ++ more) = piecesOf writes ++ piecesOf more := List.flatMap_append

theorem piecesOf_single (wait : Duration) (bytes : Bytes) :
    piecesOf [(wait, bytes)] = Bytes.pieces pieceSize bytes := List.append_nil _

theorem pending_nil : Pending [] := by
  refine ⟨?_, rfl⟩
  rintro ⟨front, piece, rest, hpieces, -⟩
  cases front <;> cases hpieces

/-- The first write that settles an answer, if there is one. -/
theorem pending_or_settled (writes : List (Duration × Bytes)) :
    Pending (piecesOf writes) ∨
      ∃ before wait bytes later result, writes = before ++ (wait, bytes) :: later ∧
        Pending (piecesOf before) ∧ Settles (piecesOf (before ++ [(wait, bytes)])) result := by
  induction writes using List.reverseRecOn with
  | nil => exact .inl pending_nil
  | append_singleton writes write ih =>
    obtain ⟨wait, bytes⟩ := write
    rcases ih with hpending | ⟨before, first, found, later, result, rfl, hpending, hsettles⟩
    · rcases pending_or_settles (piecesOf (writes ++ [(wait, bytes)])) with h | ⟨result, h⟩
      · exact .inl h
      · exact .inr ⟨writes, wait, bytes, [], result, rfl, hpending, h⟩
    · refine .inr ⟨before, first, found, later ++ [(wait, bytes)], result, ?_, hpending, hsettles⟩
      rw [List.append_assoc, List.cons_append]

namespace Arrival

variable {last : AnswerEnd} {before later front : List (Duration × Bytes)}

/-- Writes that are but the beginning of an answer are waited for. -/
theorem listen_pending (h : Pending (piecesOf (front ++ before))) :
    listen (of (piecesOf front)) last (before ++ later) =
      (listen (of (piecesOf (front ++ before))) last later).later (span before) := by
  induction before generalizing front with
  | nil => rw [List.append_nil, List.nil_append, span, Timed.later_zero]
  | cons write before ih =>
    obtain ⟨wait, bytes⟩ := write
    have hsplit : front ++ (wait, bytes) :: before = (front ++ [(wait, bytes)]) ++ before := by simp
    rw [hsplit] at h ⊢
    have hnext : Pending (piecesOf (front ++ [(wait, bytes)])) := by
      rw [piecesOf_append] at h
      exact h.of_append
    have hpieces := piecesOf_append front [(wait, bytes)]
    rw [piecesOf_single] at hpieces
    have hfront : Pending (piecesOf front) := by
      rw [hpieces] at hnext
      exact hnext.of_append
    rw [List.cons_append, listen, takePieces_pending hfront (hpieces ▸ hnext), ← hpieces]
    dsimp only
    rw [ih h, Timed.later_later]
    rfl

/-- A write that settles an answer is the last that is waited for. -/
theorem listen_settles {wait : Duration} {bytes : Bytes}
    {result : Except UpgradeFault (UpgradeAnswer × Bytes)} (hfront : Pending (piecesOf front))
    (h : Settles (piecesOf (front ++ [(wait, bytes)])) result) :
    listen (of (piecesOf front)) last ((wait, bytes) :: later) = .after wait result := by
  rw [piecesOf_append, piecesOf_single] at h
  rw [listen, takePieces_settles hfront h]
  cases result <;> rfl

theorem listen_nil (a : Arrival) (last : AnswerEnd) :
    listen a last [] =
      match last with
      | .silence => .never
      | .close wait => .after wait (.error .unfinished)
      | .failed wait fault => .after wait (.error (.io fault)) := by
  cases last <;> rfl

theorem listen_start (h : Pending (piecesOf before)) :
    listen {} last (before ++ later) =
      (listen (of (piecesOf before)) last later).later (span before) :=
  @listen_pending last before later [] h

end Arrival

namespace Origin

variable {origin : Origin}

/-- Hearing is what the reader of writes does. -/
theorem listen_eq_after_iff {wait : Duration}
    {result : Except UpgradeFault (UpgradeAnswer × Bytes)} :
    listen {} origin.last origin.writes = .after wait result ↔ origin.Heard wait result := by
  -- the end of the connection is waited for if no write settles the answer
  have hend (h : Pending (piecesOf origin.writes)) : listen {} origin.last origin.writes =
      (listen (of (piecesOf origin.writes)) origin.last []).later (span origin.writes) := by
    rw [← listen_start h, List.append_nil]
  constructor
  · intro h
    rcases pending_or_settled origin.writes with
      hpending | ⟨before, first, bytes, later, found, hwrites, hpending, hsettles⟩
    · rw [hend hpending, listen_nil] at h
      cases hlast : origin.last with
      | silence =>
        rw [hlast] at h
        cases h
      | close more =>
        rw [hlast] at h
        cases h
        exact .closed hpending hlast
      | failed more fault =>
        rw [hlast] at h
        cases h
        exact .failed hpending hlast
    · rw [hwrites, listen_start hpending, listen_settles hpending hsettles] at h
      cases h
      exact .settled hwrites hpending hsettles
  · intro h
    cases h with
    | settled hwrites hpending hsettles =>
      rw [hwrites, listen_start hpending, listen_settles hpending hsettles]
      rfl
    | closed hpending hlast =>
      rw [hend hpending, listen_nil, hlast]
      rfl
    | failed hpending hlast =>
      rw [hend hpending, listen_nil, hlast]
      rfl

/-! ### Whatever the writes are -/

/-- Writes come in no more pieces than they have octets. -/
theorem length_piecesOf (writes : List (Duration × Bytes)) :
    (piecesOf writes).length ≤ (octetsOf writes).length := by
  have hpieces (size : Nat) (bytes : Bytes) :
      (Bytes.pieces size bytes).length ≤ bytes.length := by
    fun_induction Bytes.pieces size bytes with
    | case1 => exact Nat.le_refl 0
    | case2 b rest => simp
    | case3 b rest hsize ih =>
      rw [List.length_drop] at ih
      simp only [List.length_cons]
      omega
  induction writes with
  | nil => exact Nat.le_refl 0
  | cons write writes ih =>
    show (Bytes.pieces pieceSize write.2 ++ piecesOf writes).length ≤
      (write.2 ++ octetsOf writes).length
    rw [List.length_append, List.length_append]
    exact Nat.add_le_add (hpieces pieceSize write.2) ih

theorem flatten_piecesOf (writes : List (Duration × Bytes)) :
    (piecesOf writes).flatten = octetsOf writes := by
  induction writes with
  | nil => rfl
  | cons write writes ih =>
    show (Bytes.pieces pieceSize write.2 ++ piecesOf writes).flatten = write.2 ++ octetsOf writes
    rw [List.flatten_append, Bytes.pieces_flatten, ih]

/-- A short answer is not given up. -/
theorem not_givenUp_piecesOf {writes : List (Duration × Bytes)}
    (h : (octetsOf writes).length ≤ 64) : ¬ GivenUp (piecesOf writes) := by
  refine not_givenUp ((length_piecesOf writes).trans h) ?_
  rw [flatten_piecesOf]
  omega

/-- What the octets of an answer come to with the end of the connection behind them. -/
def verdict? (origin : Origin) : Option (Except UpgradeFault UpgradeAnswer) :=
  match UpgradeAnswer.read (octetsOf origin.writes) with
  | .unfinished => origin.last.fault?.map .error
  | .refused fault => some (.error (.malformed fault))
  | .found answer _ => some (.ok answer)

/-- What is heard of an answer that is not given up is what its octets come to. -/
theorem Heard.verdict {wait : Duration} {result : Except UpgradeFault (UpgradeAnswer × Bytes)}
    (h : origin.Heard wait result) :
    result = .error .attack ∨ origin.verdict? = some (result.map Prod.fst) := by
  unfold verdict?
  cases h with
  | @settled before later first bytes _ writes pending settles =>
    have hoctets : octetsOf origin.writes =
        (piecesOf (before ++ [(first, bytes)])).flatten ++ octetsOf later := by
      rw [flatten_piecesOf, writes]
      simp [octetsOf]
    rw [hoctets]
    cases settles with
    | givenUp _ => exact .inl rfl
    | refused _ read =>
      rw [UpgradeAnswer.steady_read.refused read]
      exact .inr rfl
    | found _ read =>
      rw [UpgradeAnswer.steady_read.found read]
      exact .inr rfl
  | closed pending last =>
    rw [← flatten_piecesOf, pending.unfinished, last]
    exact .inr rfl
  | failed pending last =>
    rw [← flatten_piecesOf, pending.unfinished, last]
    exact .inr rfl

end Origin

end Carrier
