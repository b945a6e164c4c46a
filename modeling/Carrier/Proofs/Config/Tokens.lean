import Carrier.Config.Read
import Carrier.Proofs.Config.Expansion
import Carrier.Proofs.Dial.Outline
import Carrier.Proofs.Yaml.Decoding

/-!
# Configurations that differ in the service token

- `ServiceToken.IsFree`: tokens of a configuration that may stand for one another.
- `tokenVeil`: what is hidden of the document of a configuration.
- `FileAlike`: two files that differ in nothing but such tokens.
- `ForwarderEntry.decode_alike`, `Config.decode_alike`: what is read of alike documents.
- `Config.load_alike`: what is read of alike files.
- `ForwarderEntry.options_alike`: the options of sessions for alike entries.
-/

namespace Carrier

open Yaml

/-! ### Entries -/

/-- A token of a configuration that may stand for another: a text as tokens are meant to be,
without references. -/
structure ServiceToken.IsFree (t : String) : Prop where
  /-- It is as tokens are meant to be. -/
  text : IsText t
  /-- It has no references. -/
  literal : Expansion.IsLiteral t

/-- Two tokens of configurations that are the same, or may stand for one another. -/
def ServiceToken.Interchangeable (t u : String) : Prop := t = u ∨ IsFree t ∧ IsFree u

/-- What such tokens become in two environments that differ in the service token. -/
theorem ServiceToken.Interchangeable.outline_eq {t u : String} (h : Interchangeable t u)
    {env env' : Environment} (henv : env.Alike env') :
    outline (Expansion.expand env t) = outline (Expansion.expand env' u) := by
  obtain rfl | ⟨ht, hu⟩ := h
  · exact Expansion.outline_expand henv t
  · rw [Expansion.expand_of_isLiteral env ht.literal, Expansion.expand_of_isLiteral env' hu.literal,
      outline_of_isText ht.text, outline_of_isText hu.text]

/-- Two entries that differ in nothing but the service token. -/
structure ForwarderEntry.Alike (e f : ForwarderEntry) : Prop where
  /-- Everything else is the same. -/
  same : f = { e with tokenId := f.tokenId, tokenSecret := f.tokenSecret }
  /-- The identities may stand for one another. -/
  tokenId : Option.Rel ServiceToken.Interchangeable e.tokenId f.tokenId
  /-- The secrets may stand for one another. -/
  tokenSecret : Option.Rel ServiceToken.Interchangeable e.tokenSecret f.tokenSecret

/-- Two configurations that differ in nothing but the service tokens. -/
def Config.Alike (c d : Config) : Prop :=
  List.Forall₂ ForwarderEntry.Alike c.forwarders d.forwarders

theorem ServiceToken.Interchangeable.refl_option (t : Option String) :
    Option.Rel Interchangeable t t := by
  cases t with
  | none => exact .none
  | some t => exact .some (Or.inl rfl)

theorem ForwarderEntry.Alike.refl (e : ForwarderEntry) : e.Alike e :=
  ⟨rfl, ServiceToken.Interchangeable.refl_option _, ServiceToken.Interchangeable.refl_option _⟩

theorem Config.Alike.refl (c : Config) : c.Alike c :=
  List.forall₂_same.mpr fun e _ => ForwarderEntry.Alike.refl e

/-! ### Documents -/

/-- The keys of the service token in an entry. -/
def tokenKeys : List String := ["service_token_id", "service_token_secret"]

/-- What is hidden of the document of a configuration: the tokens, which may have anchors. -/
def tokenVeil (anchors : Nat → Prop) : Veil where
  keys := tokenKeys
  anchors := anchors
  texts := ServiceToken.IsFree

/-- Two files that differ in nothing but the texts of tokens, as far as they are what can be read of
YAML. -/
inductive FileAlike : Except IoFault Bytes → Except IoFault Bytes → Prop where
  /-- They are the same. -/
  | same (file : Except IoFault Bytes) : FileAlike file file
  /-- Their documents differ in nothing else. -/
  | documents {bytes bytes' : Bytes} {text text' : List Char} {anchors : Nat → Prop}
    (left : Utf8.decode? bytes = some text) (right : Utf8.decode? bytes' = some text')
    (alike : (Document.ofText (String.ofList text)).Alike (tokenVeil anchors)
      (Document.ofText (String.ofList text'))) :
    FileAlike (.ok bytes) (.ok bytes')

namespace ForwarderEntry

/-- The fields of two entries that differ in nothing but the service token. -/
structure Fields.Alike (f g : Fields) : Prop where
  /-- Everything else is the same. -/
  same : g = { f with tokenId := g.tokenId, tokenSecret := g.tokenSecret }
  /-- The identities may stand for one another. -/
  tokenId : Option.Rel (Option.Rel ServiceToken.Interchangeable) f.tokenId g.tokenId
  /-- The secrets may stand for one another. -/
  tokenSecret : Option.Rel (Option.Rel ServiceToken.Interchangeable) f.tokenSecret g.tokenSecret

variable {anchors : Nat → Prop} {d e : Decoding} (hdoc : d.Alike (tokenVeil anchors) e)

include hdoc

/-- A token is the same in both documents, or hidden in both. -/
theorem token_alike {key : String} {n n' : Node} (h : (tokenVeil anchors).ValueAlike key n n')
    (path : DecodePath) :
    Decoder.Alike d e (Option.Rel ServiceToken.Interchangeable)
      (Decoder.optional Decoder.text path n) (Decoder.optional Decoder.text path n') := by
  obtain h | ⟨-, h⟩ := h
  · refine (Decoder.optional_alike hdoc (fun path n n' h => Decoder.text_alike hdoc h path)
      h path).imp ?_
    rintro t _ rfl
    exact ServiceToken.Interchangeable.refl_option t
  · refine (Decoder.optionalText_hidden hdoc h path).imp ?_
    rintro _ _ (⟨hfree⟩ | _)
    · exact .some (Or.inr hfree)
    · exact .none

omit hdoc in
/-- A field other than those of the token, read in both documents. -/
theorem once_shown {f g : Fields} (h : Fields.Alike f g) {α : Type} {x y : Decoder α}
    (hxy : Decoder.Alike d e Eq x y) (key : String) (get : Fields → Option α)
    (set : Fields → Option α → Fields)
    (hget : ∀ f id secret, get { f with tokenId := id, tokenSecret := secret } = get f)
    (hset : ∀ f a id secret, set { f with tokenId := id, tokenSecret := secret } a
      = { set f a with tokenId := id, tokenSecret := secret })
    (hkept : ∀ f a, (set f a).tokenId = f.tokenId ∧ (set f a).tokenSecret = f.tokenSecret) :
    Decoder.Alike d e Fields.Alike (do pure (set f (← Decoder.once key (get f) x)))
      (do pure (set g (← Decoder.once key (get g) y))) := by
  have hknown : Option.Rel Eq (get f) (get g) := by
    rw [show get g = get f from (congrArg get h.same).trans (hget f _ _)]
    cases get f with
    | none => exact .none
    | some a => exact .some rfl
  have halike (a : Option α) : Fields.Alike (set f a) (set g a) := by
    refine ⟨?_, ?_, ?_⟩
    · rw [(hkept g a).1, (hkept g a).2, ← hset, ← h.same]
    · rw [(hkept f a).1, (hkept g a).1]
      exact h.tokenId
    · rw [(hkept f a).2, (hkept g a).2]
      exact h.tokenSecret
  refine (Decoder.once_alike hknown hxy key).bind ?_
  rintro _ _ (⟨rfl⟩ | _)
  · exact .pure (halike _)
  · exact .pure (halike _)

/-- Each key of an entry, read in both documents. -/
theorem field_alike {f g : Fields} (h : Fields.Alike f g) {key : String} {n n' : Node}
    (hvalue : (tokenVeil anchors).ValueAlike key n n') (path : DecodePath) :
    Decoder.Alike d e Fields.Alike (field f key path n) (field g key path n') := by
  have hshown (hkey : key ∉ tokenKeys) : Node.Alike (tokenVeil anchors) n n' :=
    hvalue.elim id fun hidden => absurd hidden.1 hkey
  have htext : ∀ path n n', Node.Alike (tokenVeil anchors) n n' →
      Decoder.Alike d e Eq (Decoder.text path n) (Decoder.text path n') :=
    fun path _ _ h => Decoder.text_alike hdoc h path
  have hseconds : ∀ path n n', Node.Alike (tokenVeil anchors) n n' →
      Decoder.Alike d e Eq (Decoder.unsigned path n) (Decoder.unsigned path n') :=
    fun path _ _ h => Decoder.unsigned_alike hdoc h path
  have htoken := token_alike hdoc hvalue path
  unfold field
  dsimp only
  -- only the two keys of the token may have hidden values; the rest is the same in both
  split
  · have hnode := hshown (by decide)
    exact once_shown h (htext path _ _ hnode) _ (·.url)
      (fun f a => { f with url := a }) (fun _ _ _ => rfl) (fun _ _ _ _ => rfl)
      fun _ _ => ⟨rfl, rfl⟩
  · have hnode := hshown (by decide)
    exact once_shown h (htext path _ _ hnode) _ (·.listener)
      (fun f a => { f with listener := a }) (fun _ _ _ => rfl) (fun _ _ _ _ => rfl)
      fun _ _ => ⟨rfl, rfl⟩
  · exact (Decoder.once_alike h.tokenId htoken _).bind fun a b hab => .pure
      ⟨congrArg (fun f : Fields => { f with tokenId := b }) h.same, hab, h.tokenSecret⟩
  · exact (Decoder.once_alike h.tokenSecret htoken _).bind fun a b hab => .pure
      ⟨congrArg (fun f : Fields => { f with tokenSecret := b }) h.same, h.tokenId, hab⟩
  · have hnode := hshown (by decide)
    exact once_shown h (Decoder.optional_alike hdoc htext hnode path) _ (·.destination)
      (fun f a => { f with destination := a }) (fun _ _ _ => rfl) (fun _ _ _ _ => rfl)
      fun _ _ => ⟨rfl, rfl⟩
  · have hnode := hshown (by decide)
    exact once_shown h (Decoder.optional_alike hdoc htext hnode path) _ (·.connectTo)
      (fun f a => { f with connectTo := a }) (fun _ _ _ => rfl) (fun _ _ _ _ => rfl)
      fun _ _ => ⟨rfl, rfl⟩
  · have hlist := Decoder.list_alike hdoc htext (hshown (by decide)) path
    rw [List.forall₂_eq_eq_eq] at hlist
    exact once_shown h hlist _ (·.headers) (fun f a => { f with headers := a })
      (fun _ _ _ => rfl) (fun _ _ _ _ => rfl) fun _ _ => ⟨rfl, rfl⟩
  · have hnode := hshown (by decide)
    exact once_shown h (Decoder.optional_alike hdoc hseconds hnode path) _ (·.timeoutSeconds)
      (fun f a => { f with timeoutSeconds := a }) (fun _ _ _ => rfl) (fun _ _ _ _ => rfl)
      fun _ _ => ⟨rfl, rfl⟩
  · exact (Decoder.ignore_alike hdoc hvalue.isWhole_eq).bind fun _ _ _ => .pure h

omit hdoc in
/-- The entries of alike fields miss the same, or are alike. -/
theorem ofFields_alike {f g : Fields} (h : Fields.Alike f g) :
    (∃ what, ofFields f = .error what ∧ ofFields g = .error what) ∨
    ∃ x y, ofFields f = .ok x ∧ ofFields g = .ok y ∧ ForwarderEntry.Alike x y := by
  have hjoin {x y : Option (Option String)}
      (hxy : Option.Rel (Option.Rel ServiceToken.Interchangeable) x y) :
      Option.Rel ServiceToken.Interchangeable x.join y.join := by
    cases hxy with
    | none => exact .none
    | some h => exact h
  have hurl : g.url = f.url := by rw [h.same]
  have hlistener : g.listener = f.listener := by rw [h.same]
  simp only [ofFields, hurl, hlistener]
  cases f.url with
  | none => exact Or.inl ⟨_, rfl, rfl⟩
  | some url =>
    cases f.listener with
    | none => exact Or.inl ⟨_, rfl, rfl⟩
    | some listener =>
      refine Or.inr ⟨_, _, rfl, rfl, ?_, hjoin h.tokenId, hjoin h.tokenSecret⟩
      rw [h.same]

/-- Entries of alike documents are alike. -/
theorem decode_alike (path : DecodePath) {n n' : Node} (h : Node.Alike (tokenVeil anchors) n n') :
    Decoder.Alike d e ForwarderEntry.Alike (decode path n) (decode path n') :=
  Decoder.record_alike hdoc (fun _ _ _ path _ _ hst hvalue => field_alike hdoc hst hvalue path)
    ⟨rfl, .none, .none⟩ (fun _ _ hst => ofFields_alike hst) h _ path

end ForwarderEntry

/-! ### Configurations -/

/-- A configuration fault without the places in the text that it names. -/
def ConfigFault.unplaced : ConfigFault → ConfigFault
  | .malformed fault => .malformed fault.unplaced
  | fault => fault

/-- Two configuration faults that differ in nothing but the places that they name. -/
def ConfigFault.Alike (f g : ConfigFault) : Prop := f.unplaced = g.unplaced

theorem ConfigFault.Alike.refl (f : ConfigFault) : f.Alike f := rfl

/-- Faults that are not the same are faults of the text. -/
theorem ConfigFault.Alike.cases {f g : ConfigFault} (h : f.Alike g) :
    f = g ∨ ∃ a b, f = .malformed a ∧ g = .malformed b ∧ a.Alike b := by
  cases f with
  | malformed a =>
    cases g with
    | malformed b => exact Or.inr ⟨a, b, rfl, rfl, ConfigFault.malformed.inj h⟩
    | _ => cases h
  | _ => cases g <;> first | exact Or.inl h | cases h

theorem ConfigFault.Alike.malformed {f g : DecodeFault} (h : f.Alike g) :
    (ConfigFault.malformed f).Alike (.malformed g) :=
  congrArg ConfigFault.malformed h

namespace Config

variable {anchors : Nat → Prop} {d e : Decoding} (hdoc : d.Alike (tokenVeil anchors) e)

include hdoc

/-- Each key of a configuration, read in both documents. -/
theorem field_alike {known known' : Option (List ForwarderEntry)}
    (hknown : Option.Rel (List.Forall₂ ForwarderEntry.Alike) known known') {key : String}
    {n n' : Node} (hvalue : (tokenVeil anchors).ValueAlike key n n') (path : DecodePath) :
    Decoder.Alike d e (Option.Rel (List.Forall₂ ForwarderEntry.Alike)) (field known key path n)
      (field known' key path n') := by
  unfold field
  split
  · rename_i hkey
    have hshown : key ∉ tokenKeys := hkey ▸ by decide
    have hnode : Node.Alike (tokenVeil anchors) n n' :=
      hvalue.elim id fun hidden => absurd hidden.1 hshown
    exact Decoder.once_alike hknown (Decoder.list_alike hdoc
      (fun path _ _ h => ForwarderEntry.decode_alike hdoc path h) hnode path) _
  · exact (Decoder.ignore_alike hdoc hvalue.isWhole_eq).bind fun _ _ _ => .pure hknown

/-- Configurations of alike documents are alike. -/
theorem decode_alike (path : DecodePath) {n n' : Node} (h : Node.Alike (tokenVeil anchors) n n') :
    Decoder.Alike d e Config.Alike (decode path n) (decode path n') := by
  refine Decoder.record_alike hdoc
    (fun _ _ _ path _ _ hknown hvalue => field_alike hdoc hknown hvalue path) .none ?_ h _ path
  rintro _ _ (⟨hall⟩ | _)
  · exact Or.inr ⟨_, _, rfl, rfl, hall⟩
  · exact Or.inr ⟨_, _, rfl, rfl, .nil⟩

omit hdoc

theorem check_alike {es fs : List ForwarderEntry} (h : List.Forall₂ ForwarderEntry.Alike es fs)
    (seen : List String) : check seen es = check seen fs := by
  induction h generalizing seen with
  | nil => rfl
  | @cons e f es fs halike _ ih =>
    have hcheck : f.check seen = e.check seen := by
      rw [halike.same]
      rfl
    simp only [check, hcheck]
    cases e.check seen with
    | error fault => rfl
    | ok address => exact ih (address :: seen)

/-- What makes a configuration valid has nothing to do with the tokens. -/
theorem validate_alike {c d : Config} (h : c.Alike d) : c.validate = d.validate := by
  have hempty : c.forwarders.isEmpty = d.forwarders.isEmpty := by
    unfold Config.Alike at h
    revert h
    generalize c.forwarders = es
    generalize d.forwarders = fs
    intro h
    cases h <;> rfl
  simp only [validate, hempty, check_alike h]

/-- The configurations of texts whose documents are alike. -/
theorem ofText_alike {anchors : Nat → Prop} {text text' : String}
    (h : (Document.ofText text).Alike (tokenVeil anchors) (Document.ofText text')) :
    ExceptRel ConfigFault.Alike Config.Alike (ofText text) (ofText text') := by
  have hread : ExceptRel DecodeFault.Alike Config.Alike ((Document.ofText text).decode decode)
      ((Document.ofText text').decode decode) :=
    Document.decode_alike h fun _ _ path _ _ hdoc h => decode_alike hdoc path h
  have hmalformed : ∀ f g, DecodeFault.Alike f g → (ConfigFault.malformed f).Alike (.malformed g) :=
    fun _ _ h => .malformed h
  simp only [ofText]
  refine (hread.mapError hmalformed).bind ?_
  intro c d halike
  rw [validate_alike halike]
  cases d.validate with
  | error fault => exact .error rfl
  | ok _ => exact .ok halike

/-- The configurations of files that differ in nothing but tokens. -/
theorem load_alike {files files' : String → Except IoFault Bytes} {path : String}
    (h : FileAlike (files path) (files' path)) :
    ExceptRel ConfigFault.Alike Config.Alike (load files path) (load files' path) := by
  simp only [load]
  revert h
  generalize files path = x
  generalize files' path = y
  intro h
  cases h with
  | same => exact .refl ConfigFault.Alike.refl Alike.refl _
  | documents left right alike =>
    simp only [left, right]
    exact ofText_alike alike

end Config

namespace ForwarderEntry

/-- The headers of sessions for alike entries have one outline. -/
theorem accessHeaders_alike {e f : ForwarderEntry} (h : e.Alike f) {env env' : Environment}
    (henv : env.Alike env') :
    (e.accessHeaders env).outlined = (f.accessHeaders env').outlined := by
  have htoken {t u : Option String} (h : Option.Rel ServiceToken.Interchangeable t u) :
      (t.map (Expansion.expand env)).map ServiceToken.outline
        = (u.map (Expansion.expand env')).map ServiceToken.outline := by
    cases h with
    | none => rfl
    | some h => exact congrArg some (h.outline_eq henv)
  have hpairs : f.headers = e.headers := by rw [h.same]
  have hdestination : f.destination = e.destination := by rw [h.same]
  rw [accessHeaders, accessHeaders, HeaderMap.forAccess_outlined, HeaderMap.forAccess_outlined,
    htoken h.tokenId, htoken h.tokenSecret, hpairs, hdestination]

/-- The options of sessions for alike entries have one outline. -/
theorem options_alike {e f : ForwarderEntry} (h : e.Alike f) {env env' : Environment}
    (henv : env.Alike env') :
    (e.options env).map (Prod.map DialOptions.outlined id)
      = (f.options env').map (Prod.map DialOptions.outlined id) := by
  have hnamed : f.url = e.url ∧ f.connectTo = e.connectTo ∧ f.listener = e.listener := by
    rw [h.same]
    exact ⟨rfl, rfl, rfl⟩
  obtain ⟨hurl, hplace, hlistener⟩ := hnamed
  have hmap (x : Except SetupError (DialOptions × List LogRecord)) (listener : String) :
      (x.mapError (ConfigFault.invalidOverride listener)).map (Prod.map DialOptions.outlined id)
        = (x.map (Prod.map DialOptions.outlined id)).mapError
          (ConfigFault.invalidOverride listener) := by
    cases x <;> rfl
  simp only [options, hurl, hplace, hlistener, hmap]
  rw [← DialOptions.resolve_outlined, ← DialOptions.resolve_outlined]
  simp only [DialOptions.outlined, accessHeaders_alike h henv]

end ForwarderEntry

end Carrier
