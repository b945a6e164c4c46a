import Carrier.Proofs.Override.Sequence

/-!
# What a sequence of overrides changes and reports

Texts are resolved one after the other, each with the options that the last one that was accepted has
left. Nothing but the destination ever changes, a text that is refused leaves everything as it is,
and one warning is given for each text that presents a name, in the order of the texts.

- `DialOptions.resolveAll`: the options after a sequence of texts, and what has been reported.
- `DialOptions.resolveNext_eq`: what one more text does.
- `Override.Warned`: the warnings that a sequence of texts calls for.
- `DialOptions.resolveAll_frame`: what changes, what stays, and what is reported.
-/

namespace Carrier

namespace Override

/-- `Warned raws records`: each text that presents a name has a warning of its own, which names it
and the origin, and no other text has one. -/
inductive Warned : List String → List LogRecord → Prop where
  /-- Without texts there is no warning. -/
  | start : Warned [] []
  /-- A text that presents a name is warned of. -/
  | presenting {raws : List String} {records : List LogRecord} {raw name port host : String}
    (before : Warned raws records) (presents : Presents raw name port host) :
    Warned (raws ++ [raw]) (records ++ [warning name ("https://" ++ host ++ ":" ++ port)])
  /-- Any other text is not, be it accepted, refused or empty. -/
  | other {raws : List String} {records : List LogRecord} {raw : String}
    (before : Warned raws records) (presentsNone : ∀ name port host, ¬ Presents raw name port host) :
    Warned (raws ++ [raw]) records

/-- Overrides with three fields are those that bring terms of TLS. -/
theorem length_parts_eq_three (o : Override) : o.parts.length = 3 ↔ o.tls.isSome := by
  cases o <;> simp [parts, tls]

/-- There are as many warnings as overrides with three fields. -/
theorem Warned.length {raws : List String} {records : List LogRecord} (h : Warned raws records) :
    records.length = (accepted raws).countP (·.parts.length = 3) := by
  induction h with
  | start => rfl
  | presenting before presents ih =>
    rw [List.length_append, ih, DialOptions.accepted_concat, presents.parse, List.countP_append]
    rfl
  | @other raws records raw before presentsNone ih =>
    rw [ih, DialOptions.accepted_concat, List.countP_append]
    cases hparse : parse raw with
    | error cause => rfl
    | ok o =>
      have hplain : ¬ o.parts.length = 3 := by
        rw [length_parts_eq_three, tls_isSome_iff hparse]
        rintro ⟨name, port, host, presents⟩
        exact presentsNone name port host presents
      simp [Except.toOption, hplain]

end Override

namespace DialOptions

/-- The options after one more text, and all that has been reported; a text that is refused leaves
both as they are. -/
def resolveNext (left : DialOptions × List LogRecord) (raw : String) :
    DialOptions × List LogRecord :=
  match left.1.resolve raw with
  | .ok (options, records) => (options, left.2 ++ records)
  | .error _ => left

/-- The options after a sequence of texts, and what has been reported. -/
def resolveAll (base : DialOptions) (raws : List String) : DialOptions × List LogRecord :=
  raws.foldl resolveNext (base, [])

theorem resolveAll_concat (base : DialOptions) (raws : List String) (raw : String) :
    base.resolveAll (raws ++ [raw]) = resolveNext (base.resolveAll raws) raw := by
  simp [resolveAll]

/-! ### One text -/

/-- A text that stands for an override leaves the options that the override gives, and reports what
it reports; any other leaves everything as it is. -/
theorem resolveNext_eq (left : DialOptions × List LogRecord) (raw : String) :
    resolveNext left raw =
      ((Override.parse raw).toOption.elim left fun o =>
        ((o.apply left.1).1, left.2 ++ (o.apply left.1).2)) := by
  unfold resolveNext resolve
  by_cases hraw : raw = ""
  · subst hraw
    simp [Override.parse, Except.toOption]
  · have hempty : raw.isEmpty = false := by simpa using hraw
    rw [hempty]
    cases Override.parse raw <;> rfl

/-- Texts that are refused and empty ones leave everything as it is. -/
theorem resolveNext_idle {left : DialOptions × List LogRecord} {raw : String}
    (h : raw = "" ∨ ∃ cause, left.1.resolve raw = .error cause) : resolveNext left raw = left := by
  unfold resolveNext
  rcases h with rfl | ⟨cause, hcause⟩
  · simp [resolve]
  · rw [hcause]

/-- The options are those that are left where nothing is reported. -/
theorem resolveNext_fst (left : DialOptions × List LogRecord) (raw : String) :
    (resolveNext left raw).1 = left.1.follow raw := by
  rw [resolveNext_eq, follow_eq]
  cases (Override.parse raw).toOption <;> rfl

/-- What one more text reports is the warning that it calls for. -/
theorem resolveNext_warned {left : DialOptions × List LogRecord} {raws : List String} (raw : String)
    (before : Override.Warned raws left.2) :
    Override.Warned (raws ++ [raw]) (resolveNext left raw).2 := by
  rw [resolveNext_eq]
  by_cases hpresents : ∃ name port host, Override.Presents raw name port host
  · obtain ⟨name, port, host, hpresents⟩ := hpresents
    rw [hpresents.parse]
    exact .presenting before hpresents
  · have hnone : ∀ name port host, ¬ Override.Presents raw name port host := by
      intro name port host h
      exact hpresents ⟨name, port, host, h⟩
    cases hparse : Override.parse raw with
    | error cause => exact .other before hnone
    | ok o =>
      have hplain : o.tls = none := by
        rw [← Option.not_isSome_iff_eq_none, Override.tls_isSome_iff hparse]
        exact hpresents
      have hreported : (o.apply left.1).2 = [] := by
        rw [Override.apply_eq, hplain]
        rfl
      show Override.Warned _ (left.2 ++ (o.apply left.1).2)
      rw [hreported, List.append_nil]
      exact .other before hnone

/-! ### A sequence of texts -/

theorem resolveAll_fst (base : DialOptions) (raws : List String) :
    (base.resolveAll raws).1 = base.followAll raws := by
  induction raws using List.reverseRecOn with
  | nil => rfl
  | append_singleton raws raw ih =>
    rw [resolveAll_concat, resolveNext_fst, ih]
    simp [followAll]

theorem resolveAll_warned (base : DialOptions) (raws : List String) :
    Override.Warned raws (base.resolveAll raws).2 := by
  induction raws using List.reverseRecOn with
  | nil => exact .start
  | append_singleton raws raw ih =>
    rw [resolveAll_concat]
    exact resolveNext_warned raw ih

/-- After a sequence of texts the headers and the host to present are those that there were, and the
origin is that of the last override, if there was one. Each text that presents a name has been
warned of once and no other, so that there are as many warnings as overrides with three fields. A
text that is refused, or empty, then changes nothing and reports nothing. -/
theorem resolveAll_frame (base : DialOptions) (raws : List String) :
    (base.resolveAll raws).1.headers = base.headers ∧
      (base.resolveAll raws).1.host = base.host ∧
      (base.resolveAll raws).1.origin
        = ((Override.accepted raws).getLast?.map Override.origin).getD base.origin ∧
      Override.Warned raws (base.resolveAll raws).2 ∧
      (base.resolveAll raws).2.length
        = (Override.accepted raws).countP (·.parts.length = 3) ∧
      ∀ raw, (raw = "" ∨ ∃ cause, (base.resolveAll raws).1.resolve raw = .error cause) →
        base.resolveAll (raws ++ [raw]) = base.resolveAll raws := by
  have hwarned := base.resolveAll_warned raws
  refine ⟨?_, ?_, ?_, hwarned, hwarned.length, ?_⟩
  · rw [resolveAll_fst, followAll_eq]
  · rw [resolveAll_fst, followAll_eq]
  · rw [resolveAll_fst, followAll_eq]
  · intro raw hidle
    rw [resolveAll_concat, resolveNext_idle hidle]

/-- Of five texts one is empty, one is refused, and two present a name. -/
example :
    (({ origin := "https://ssh.example.com" } : DialOptions).resolveAll
        ["a.example:1:h", "", "b.example:2:h", "a:b:c:d", "plain.example:443"]).2 =
      [Override.warning "a.example" "https://h:1", Override.warning "b.example" "https://h:2"] := by
  decide +kernel

end DialOptions

end Carrier
