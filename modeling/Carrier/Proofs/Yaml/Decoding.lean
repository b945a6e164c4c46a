import Carrier.Proofs.Related
import Carrier.Proofs.Yaml.Veil

/-!
# Reading documents that differ behind a veil

What is read out of two such documents is related, or they have the same fault but for the places
that it names. Each way of reading has a lemma that says so; only the values of the veil's keys may
differ, and only where a text is expected.

- `Decoder.Alike`: two decoders whose results are related.
- `Decoder.Alike.bind`: one after the other.
- `Decoder.text_alike`, `Decoder.optional_alike`, `Decoder.list_alike`, `Decoder.record_alike`:
  what is expected of a node.
- `Decoder.optionalText_hidden`: a hidden text.
- `Document.decode_alike`: whole documents.
-/

namespace Carrier

namespace Yaml

/-! ### Results -/

/-- Two faults that differ in nothing but the places that they name. -/
def DecodeFault.Alike (f g : DecodeFault) : Prop := f.unplaced = g.unplaced

/-- What is known of two documents that differ behind a veil. -/
structure Decoding.Alike (v : Veil) (d e : Decoding) : Prop where
  /-- The same is wrong with them. -/
  fault : d.document.fault.map DocumentFault.unplaced = e.document.fault.map DocumentFault.unplaced
  /-- They have as many events. -/
  size : d.document.size = e.document.size
  /-- What each anchor stands for is alike, or hidden. -/
  anchored : ∀ anchor,
    Option.Rel (Node.AnchorAlike v anchor) (d.anchored.lookup anchor) (e.anchored.lookup anchor)

namespace Decoder

variable {α β γ δ : Type}

/-- The results of two related readers, and how many aliases they have followed. -/
def Follows (R : α → β → Prop) (x : α × Nat) (y : β × Nat) : Prop := R x.1 y.1 ∧ x.2 = y.2

/-- Two decoders whose results in two documents are related. -/
def Alike (d e : Decoding) (R : α → β → Prop) (x : Decoder α) (y : Decoder β) : Prop :=
  ∀ followed, ExceptRel DecodeFault.Alike (Follows R) (x d followed) (y e followed)

section Combining

variable {d e : Decoding} {R : α → β → Prop} {Q : γ → δ → Prop}

theorem Alike.pure {a : α} {b : β} (h : R a b) : Alike d e R (Pure.pure a) (Pure.pure b) :=
  fun _ => .ok ⟨h, rfl⟩

theorem Alike.throw {f g : DecodeFault} (h : f.unplaced = g.unplaced) :
    Alike d e R (MonadExcept.throw f) (MonadExcept.throw g) :=
  fun _ => .error h

/-- One after the other, where the second ones are related for all related results. -/
theorem Alike.bind {x : Decoder α} {y : Decoder β} {next : α → Decoder γ} {next' : β → Decoder δ}
    (h : Alike d e R x y) (hnext : ∀ a b, R a b → Alike d e Q (next a) (next' b)) :
    Alike d e Q (x >>= next) (y >>= next') := by
  intro followed
  simp only [Bind.bind, ReaderT.bind, StateT.bind]
  have hx := h followed
  cases hd : x d followed with
  | error f =>
    rw [hd] at hx
    cases hr : y e followed with
    | error g =>
      rw [hr] at hx
      cases hx with
      | error same => exact .error same
    | ok r =>
      rw [hr] at hx
      cases hx
  | ok l =>
    rw [hd] at hx
    cases hr : y e followed with
    | error g =>
      rw [hr] at hx
      cases hx
    | ok r =>
      rw [hr] at hx
      cases hx with
      | ok related =>
        obtain ⟨hvalue, hcount⟩ := related
        have hrest := hnext l.1 r.1 hvalue l.2
        rw [hcount] at hrest
        simpa only [Except.bind, hcount] using hrest

theorem Alike.imp {x : Decoder α} {y : Decoder β} {P : α → β → Prop} (h : Alike d e R x y)
    (hweak : ∀ a b, R a b → P a b) : Alike d e P x y := by
  intro followed
  have hx := h followed
  revert hx
  generalize x d followed = l
  generalize y e followed = r
  intro hx
  cases hx with
  | ok related => exact .ok ⟨hweak _ _ related.1, related.2⟩
  | error same => exact .error same

/-- A result in a box. -/
theorem Alike.some {x : Decoder α} {y : Decoder β} (h : Alike d e R x y) :
    Alike d e (Option.Rel R) (Option.some <$> x) (Option.some <$> y) := by
  rw [map_eq_pure_bind, map_eq_pure_bind]
  exact h.bind fun a b hab => .pure (.some hab)

/-- A place is given to faults that have none, in whichever place. -/
theorem Alike.placed {x : Decoder α} {y : Decoder β} (h : Alike d e R x y) (path : DecodePath)
    (mark mark' : Mark) : Alike d e R (placed path mark x) (placed path mark' y) := by
  intro followed
  have hx := h followed
  simp only [Decoder.placed]
  revert hx
  generalize x d followed = l
  generalize y e followed = r
  intro hx
  cases hx with
  | ok related => exact .ok related
  | error same =>
    refine .error ?_
    rw [DecodeFault.Alike, DecodeFault.unplaced_locate, DecodeFault.unplaced_locate, same]

end Combining

/-! ### Values that may be absent -/

/-- What is read of the value that an optional one stands for. -/
def present (some' : DecodePath → Node → Decoder α) (path : DecodePath) :
    Node → Decoder (Option α)
  | .scalar mark anchor tag text style =>
    if style = .plain ∧ tag = none then
      if text.isEmpty || isNull text then Pure.pure none
      else Option.some <$> some' path (.scalar mark anchor tag text style)
    else if style = .plain ∧ tag = Option.some nullTag then
      if isNull text then Pure.pure none
      else MonadExcept.throw (DecodeFault.mismatch (.tagged text "null") none)
    else Option.some <$> some' path (.scalar mark anchor tag text style)
  | n => Option.some <$> some' path n

theorem optional_eq (some' : DecodePath → Node → Decoder α) (path : DecodePath) (n : Node) :
    optional some' path n = resolve n >>= present some' path := by
  simp only [optional]
  congr 1
  funext a
  cases a with
  | scalar mark anchor tag text style =>
    simp only [present]
    split
    · rename_i heq
      cases heq
      simp
    · rename_i heq
      cases heq
      simp [nullTag]
    · rename_i hnone htagged
      have h1 : ¬ (style = .plain ∧ tag = none) := by
        rintro ⟨rfl, rfl⟩
        exact hnone _ _ _ rfl
      have h2 : ¬ (style = .plain ∧ tag = Option.some nullTag) := by
        rintro ⟨rfl, rfl⟩
        exact htagged _ _ _ rfl
      rw [if_neg h1, if_neg h2]
  | _ => rfl

/-- A hidden scalar is there, and is read as a text. -/
theorem present_hidden {v : Veil} {mark : Mark} {anchor : Option Nat} {tag : Option String}
    {text : String} {style : ScalarStyle} (h : v.Hides tag text style)
    (some' : DecodePath → Node → Decoder α) (path : DecodePath) :
    present some' path (.scalar mark anchor tag text style)
      = Option.some <$> some' path (.scalar mark anchor tag text style) := by
  simp only [present]
  split
  · rename_i hplain
    obtain ⟨hne, hnn⟩ := h.notNull hplain.1 hplain.2
    simp [hne, hnn]
  · split
    · rename_i hplain
      exact absurd hplain.2 (h.notTagged hplain.1)
    · rfl

/-! ### Nodes -/

section Nodes

variable {v : Veil} {d e : Decoding} (hdoc : d.Alike v e) {R : α → β → Prop} {n n' : Node}

include hdoc

/-- Documents that break off have the same fault. -/
theorem breakOff_alike : Alike d e R breakOff breakOff := by
  intro followed
  refine .error ?_
  have hfault := hdoc.fault
  cases hd : d.document.fault with
  | none =>
    cases he : e.document.fault with
    | none => rfl
    | some g => simp [hd, he] at hfault
  | some f =>
    cases he : e.document.fault with
    | none => simp [hd, he] at hfault
    | some g =>
      rw [hd, he] at hfault
      exact congrArg DecodeFault.document (Option.some.inj hfault)

/-- An alias stands for the nodes of its anchor in both documents. -/
theorem resolve_reference {mark mark' : Mark} {anchor : Nat} {Q : Node → Node → Prop}
    (hnodes : ∀ n n', Node.AnchorAlike v anchor n n' → Q n n') :
    Alike d e Q (resolve (.alias mark anchor)) (resolve (.alias mark' anchor)) := by
  simp only [resolve]
  refine Alike.bind (R := fun l r => l = d ∧ r = e) (fun _ => .ok ⟨⟨rfl, rfl⟩, rfl⟩) ?_
  rintro l r ⟨rfl, rfl⟩
  refine Alike.bind (R := Eq) (fun _ => .ok ⟨rfl, rfl⟩) ?_
  rintro followed _ rfl
  rw [← hdoc.size]
  split
  · exact .throw rfl
  · refine Alike.bind (R := Eq) (fun _ => .ok ⟨rfl, rfl⟩) ?_
    rintro _ _ -
    have hlookup := hdoc.anchored anchor
    revert hlookup
    generalize l.anchored.lookup anchor = x
    generalize r.anchored.lookup anchor = y
    rintro (hpair | _)
    · exact .pure (hnodes _ _ hpair)
    · exact breakOff_alike hdoc

/-- What nodes stand for is alike where they are. -/
theorem resolve_alike (h : Node.Alike v n n') :
    Alike d e (Node.Alike v) (resolve n) (resolve n') := by
  cases h with
  | missing => exact breakOff_alike hdoc
  | reference shown =>
    refine resolve_reference hdoc fun n n' hpair => ?_
    cases hpair with
    | hidden hidden _ => exact absurd hidden shown
    | shown _ nodes => exact nodes
  | scalar => exact .pure .scalar
  | sequence each => exact .pure (.sequence each)
  | mapping each => exact .pure (.mapping each)

/-- What hidden nodes stand for is hidden. -/
theorem resolve_hidden (h : Node.Hidden v n n') :
    Alike d e (Node.Hidden v) (resolve n) (resolve n') := by
  cases h with
  | reference hidden =>
    refine resolve_reference hdoc fun n n' hpair => ?_
    cases hpair with
    | hidden _ nodes => exact nodes
    | shown shown _ => exact absurd hidden shown
  | scalar left right => exact .pure (.scalar left right)

/-- Alike nodes are refused in the same words. -/
theorem refuse_alike (h : Node.Alike v n n') (expected : String) (path : DecodePath) :
    Alike d e R (refuse expected path n) (refuse expected path n') := by
  cases h with
  | missing => exact breakOff_alike hdoc
  | reference _ => exact breakOff_alike hdoc
  | scalar => exact .throw rfl
  | sequence _ => exact .throw rfl
  | mapping _ => exact .throw rfl

theorem textOr_alike (h : Node.Alike v n n') (expected : String) (path : DecodePath) :
    Alike d e Eq (textOr expected path n) (textOr expected path n') := by
  simp only [textOr]
  refine (resolve_alike hdoc h).bind fun a b hab => ?_
  cases hab with
  | scalar => exact .pure rfl
  | missing => exact refuse_alike hdoc .missing expected path
  | reference shown => exact refuse_alike hdoc (.reference shown) expected path
  | sequence each => exact refuse_alike hdoc (.sequence each) expected path
  | mapping each => exact refuse_alike hdoc (.mapping each) expected path

theorem text_alike (h : Node.Alike v n n') (path : DecodePath) :
    Alike d e Eq (text path n) (text path n') :=
  textOr_alike hdoc h _ path

/-- A hidden text is one that may stand for the other. -/
theorem text_hidden (h : Node.Hidden v n n') (path : DecodePath) :
    Alike d e (fun t u => v.texts t ∧ v.texts u) (text path n) (text path n') := by
  simp only [text, textOr]
  refine (resolve_hidden hdoc h).bind fun a b hab => ?_
  cases hab with
  | reference _ => exact breakOff_alike hdoc
  | scalar left right => exact .pure ⟨left.free, right.free⟩

theorem unsigned_alike (h : Node.Alike v n n') (path : DecodePath) :
    Alike d e Eq (unsigned path n) (unsigned path n') := by
  simp only [unsigned]
  refine (resolve_alike hdoc h).bind fun a b hab => ?_
  cases hab with
  | scalar =>
    dsimp only
    split
    · exact .pure rfl
    · exact refuse_alike hdoc .scalar _ path
  | missing => exact refuse_alike hdoc .missing _ path
  | reference shown => exact refuse_alike hdoc (.reference shown) _ path
  | sequence each => exact refuse_alike hdoc (.sequence each) _ path
  | mapping each => exact refuse_alike hdoc (.mapping each) _ path

/-- A value that may be absent is absent in both documents or in neither. -/
theorem optional_alike {some' : DecodePath → Node → Decoder α}
    (hsome : ∀ path n n', Node.Alike v n n' → Alike d e Eq (some' path n) (some' path n'))
    (h : Node.Alike v n n') (path : DecodePath) :
    Alike d e Eq (optional some' path n) (optional some' path n') := by
  have hboxed {a b : Node} (hab : Node.Alike v a b) :
      Alike d e Eq (Option.some <$> some' path a) (Option.some <$> some' path b) :=
    (hsome path a b hab).some.imp fun x y hrel => by cases hrel <;> simp_all
  rw [optional_eq, optional_eq]
  refine (resolve_alike hdoc h).bind fun a b hab => ?_
  cases hab with
  | missing => exact hboxed .missing
  | reference shown => exact hboxed (.reference shown)
  | sequence each => exact hboxed (.sequence each)
  | mapping each => exact hboxed (.mapping each)
  | scalar =>
    simp only [present]
    split
    · split
      · exact .pure rfl
      · exact hboxed .scalar
    · split
      · split
        · exact .pure rfl
        · exact .throw rfl
      · exact hboxed .scalar

/-- A hidden text is there in both documents, and may stand for the other. -/
theorem optionalText_hidden (h : Node.Hidden v n n') (path : DecodePath) :
    Alike d e (Option.Rel fun t u => v.texts t ∧ v.texts u) (optional text path n)
      (optional text path n') := by
  rw [optional_eq, optional_eq]
  refine (resolve_hidden hdoc h).bind fun a b hab => ?_
  have htext := (text_hidden hdoc hab path).some
  cases hab with
  -- an alias that is still there when it has been followed is refused, as `text` refuses it
  | reference _ => exact htext
  | scalar left right => rwa [present_hidden left, present_hidden right]

/-- Nodes that are passed over break off in both documents or in neither. -/
theorem ignore_alike (h : n.isWhole = n'.isWhole) : Alike d e Eq (ignore n) (ignore n') := by
  simp only [ignore, ← h]
  split
  · exact .pure rfl
  · exact breakOff_alike hdoc

omit hdoc in
/-- The items of sequences from left to right. -/
theorem items_alike {each : DecodePath → Node → Decoder α} {each' : DecodePath → Node → Decoder β}
    (heach : ∀ path n n', Node.Alike v n n' → Alike d e R (each path n) (each' path n'))
    {ns ns' : List Node} (h : Node.ItemsAlike v ns ns') (path : DecodePath) (index : Nat) :
    Alike d e (List.Forall₂ R) (items each path index ns) (items each' path index ns') := by
  induction ns generalizing ns' index with
  | nil =>
    cases h
    exact .pure .nil
  | cons n rest ih =>
    cases h with
    | cons first others =>
      simp only [items]
      refine (heach _ _ _ first).bind fun x y hxy => ?_
      refine (ih others (index + 1)).bind fun xs ys hxs => ?_
      exact .pure (.cons hxy hxs)

theorem list_alike {each : DecodePath → Node → Decoder α} {each' : DecodePath → Node → Decoder β}
    (heach : ∀ path n n', Node.Alike v n n' → Alike d e R (each path n) (each' path n'))
    (h : Node.Alike v n n') (path : DecodePath) :
    Alike d e (List.Forall₂ R) (list each path n) (list each' path n') := by
  simp only [list]
  refine (resolve_alike hdoc h).bind fun a b hab => ?_
  cases hab with
  | sequence items => exact (items_alike heach items path 0).placed path _ _
  | scalar =>
    dsimp only
    split
    · exact .pure .nil
    · exact refuse_alike hdoc .scalar _ path
  | missing => exact refuse_alike hdoc .missing _ path
  | reference shown => exact refuse_alike hdoc (.reference shown) _ path
  | mapping each => exact refuse_alike hdoc (.mapping each) _ path

end Nodes

/-! ### Fields -/

section Fields

variable {d e : Decoding} {R : α → β → Prop}

/-- A field that is there once, or twice, in both documents. -/
theorem once_alike {known : Option α} {known' : Option β} (hknown : Option.Rel R known known')
    {x : Decoder α} {y : Decoder β} (h : Alike d e R x y) (name : String) :
    Alike d e (Option.Rel R) (once name known x) (once name known' y) := by
  cases hknown with
  | some _ => exact .throw rfl
  | none => exact h.some

variable {v : Veil} (hdoc : d.Alike v e) {σ τ : Type} {S : σ → τ → Prop}
  {field : σ → String → DecodePath → Node → Decoder σ}
  {field' : τ → String → DecodePath → Node → Decoder τ}
  (hfield : ∀ s t key path n n', S s t → v.ValueAlike key n n' →
    Alike d e S (field s key path n) (field' t key path n'))

include hdoc hfield

/-- The entries of mappings from left to right. -/
theorem entries_alike {es es' : List (Node × Node)} (h : Node.EntriesAlike v es es')
    (path : DecodePath) {s : σ} {t : τ} (hst : S s t) :
    Alike d e S (entries field path s es) (entries field' path t es') := by
  induction es generalizing es' s t with
  | nil =>
    cases h
    exact .pure hst
  | cons entry rest ih =>
    cases h with
    | shown key value each =>
      -- a key that is an alias may become the text of a token's key, but its value is shown
      simp only [entries]
      refine (textOr_alike hdoc key _ path).bind ?_
      rintro name _ rfl
      cases key <;>
        exact (hfield _ _ _ _ _ _ hst (.inl value)).bind fun s t hst => ih each hst
    | hidden key named value each =>
      obtain ⟨mark, anchor, tag, text, style, rfl, hkey⟩ := named
      cases key with
      | scalar =>
        simp only [entries, textOr, resolve, pure_bind]
        exact (hfield _ _ _ _ _ _ hst (.inr ⟨hkey, value⟩)).bind fun s t hst => ih each hst

/-- Mappings as records. -/
theorem record_alike {start : σ} {start' : τ} (hstart : S start start')
    {whole : σ → Except Mismatch α} {whole' : τ → Except Mismatch β}
    (hwhole : ∀ s t, S s t → (∃ what, whole s = .error what ∧ whole' t = .error what) ∨
      ∃ x y, whole s = .ok x ∧ whole' t = .ok y ∧ R x y)
    {n n' : Node} (h : Node.Alike v n n') (expected : String) (path : DecodePath) :
    Alike d e R (record expected start field whole path n)
      (record expected start' field' whole' path n') := by
  simp only [record]
  refine (resolve_alike hdoc h).bind fun a b hab => ?_
  cases hab with
  | mapping each =>
    refine Alike.placed ?_ path _ _
    refine (entries_alike hdoc hfield each path hstart).bind fun s t hst => ?_
    obtain ⟨what, hs, ht⟩ | ⟨x, y, hs, ht, hxy⟩ := hwhole s t hst
    · rw [hs, ht]
      exact .throw rfl
    · rw [hs, ht]
      exact .pure hxy
  | scalar =>
    dsimp only
    split
    · refine Alike.placed ?_ path _ _
      obtain ⟨what, hs, ht⟩ | ⟨x, y, hs, ht, hxy⟩ := hwhole start start' hstart
      · rw [hs, ht]
        exact .throw rfl
      · rw [hs, ht]
        exact .pure hxy
    · exact refuse_alike hdoc .scalar _ path
  | missing => exact refuse_alike hdoc .missing _ path
  | reference shown => exact refuse_alike hdoc (.reference shown) _ path
  | sequence each => exact refuse_alike hdoc (.sequence each) _ path

end Fields

end Decoder

/-! ### Documents -/

/-- Two whole documents, read by decoders that are related. -/
theorem Document.decode_alike {v : Veil} {d e : Document} (h : d.Alike v e) {α β : Type}
    {R : α → β → Prop} {x : DecodePath → Node → Decoder α} {y : DecodePath → Node → Decoder β}
    (hxy : ∀ d e path n n', Decoding.Alike v d e → Node.Alike v n n' →
      Decoder.Alike d e R (x path n) (y path n')) :
    ExceptRel DecodeFault.Alike R (d.decode x) (e.decode y) := by
  have hdoc : Decoding.Alike v ⟨d, d.root.anchored.reverse⟩ ⟨e, e.root.anchored.reverse⟩ :=
    ⟨h.fault, h.size, h.anchors⟩
  have hread := hxy _ _ [] d.root e.root hdoc h.root 0
  have hfault := h.fault
  simp only [decode, ReaderT.run, StateT.run, Bind.bind, Except.bind]
  -- a fault of the reading comes before one of the document
  revert hread
  generalize x [] d.root ⟨d, d.root.anchored.reverse⟩ 0 = l
  generalize y [] e.root ⟨e, e.root.anchored.reverse⟩ 0 = r
  intro hread
  cases hread with
  | error same => exact .error same
  | ok related =>
    cases hd : d.fault with
    | some f =>
      cases he : e.fault with
      | none => simp [hd, he] at hfault
      | some g =>
        rw [hd, he] at hfault
        exact .error (congrArg DecodeFault.document (Option.some.inj hfault))
    | none =>
      cases he : e.fault with
      | some g => simp [hd, he] at hfault
      | none =>
        dsimp only
        rw [← h.followed]
        split
        · exact .error rfl
        · exact .ok related.1

end Yaml

end Carrier
