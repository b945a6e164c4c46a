import Carrier.CommandLine.Invocation
import Carrier.Proofs.Config.Expansion
import Carrier.Proofs.Related

/-!
# Command lines that differ in the service token

- `OptionValues.Alike`: values that differ in nothing but the token.
- `WordsAlike`: arguments that differ in nothing but the token.
- `CommandSpec.scan_alike`: what is read of such arguments.
- `SshArguments.outlined`, `Invocation.outlined`: what is asked for, with the token outlined.
- `Invocation.parse_alike`: what such command lines ask for in environments that differ in the
  token. The command for help is left out, since it shows a word that it does not know.
-/

namespace Carrier

/-- The options that give the service token. -/
def tokenOptions : List String := ["service-token-id", "service-token-secret"]

/-! ### Values -/

namespace OptionValues

/-- A value of an option, outlined if it is part of the token. -/
def outlineOf (name value : String) : String :=
  if name ∈ tokenOptions then ServiceToken.outline value else value

/-- Values with the token among them outlined. -/
def outlined (vs : OptionValues) : OptionValues := vs.map fun v => (v.1, outlineOf v.1 v.2)

/-- Values that differ in nothing but the token. -/
def Alike (vs ws : OptionValues) : Prop := outlined vs = outlined ws

variable {vs ws : OptionValues}

theorem get?_outlined (vs : OptionValues) (name : String) :
    (outlined vs).get? name = (vs.get? name).map (outlineOf name) := by
  simp only [get?, outlined]
  induction vs with
  | nil => rfl
  | cons v rest ih =>
    obtain ⟨other, value⟩ := v
    by_cases hname : name = other
    · subst hname
      simp
    · have hne : (name == other) = false := beq_eq_false_iff_ne.mpr hname
      simp only [List.map_cons, List.lookup_cons, hne]
      exact ih

theorem Alike.get?_eq (h : Alike vs ws) (name : String) :
    (vs.get? name).map (outlineOf name) = (ws.get? name).map (outlineOf name) := by
  rw [← get?_outlined, ← get?_outlined, h]

/-- An option that is no part of the token has the same value. -/
theorem Alike.get?_shown (h : Alike vs ws) {name : String} (hname : name ∉ tokenOptions) :
    vs.get? name = ws.get? name := by
  have hsame : outlineOf name = id := funext fun value => if_neg hname
  simpa only [hsame, Option.map_id, id] using h.get?_eq name

/-- The values of a part of the token have one outline. -/
theorem Alike.get?_token (h : Alike vs ws) {name : String} (hname : name ∈ tokenOptions) :
    (vs.get? name).map ServiceToken.outline = (ws.get? name).map ServiceToken.outline := by
  have hsame : outlineOf name = ServiceToken.outline := funext fun value => if_pos hname
  simpa only [hsame] using h.get?_eq name

theorem Alike.isSome_get? (h : Alike vs ws) (name : String) :
    (vs.get? name).isSome = (ws.get? name).isSome := by
  have heq := congrArg Option.isSome (h.get?_eq name)
  simpa only [Option.isSome_map] using heq

theorem Alike.isEmpty_eq (h : Alike vs ws) : vs.isEmpty = ws.isEmpty := by
  have heq := congrArg List.isEmpty h
  simpa only [outlined, List.isEmpty_map] using heq

/-- All values of an option that is no part of the token are the same. -/
theorem Alike.all_shown (h : Alike vs ws) {name : String} (hname : name ∉ tokenOptions) :
    vs.all name = ws.all name := by
  have hchosen (vs : OptionValues) : (outlined vs).all name = vs.all name := by
    simp only [all, outlined, List.filter_map, List.map_map]
    refine List.map_congr_left fun v hv => ?_
    have hv : v.1 = name := of_decide_eq_true (List.mem_filter.mp hv).2
    exact if_neg (hv ▸ hname)
  rw [← hchosen vs, ← hchosen ws, h]

/-- The values of an option may differ: they are the same, or have one outline and are part of the
token. -/
def ValueAlike (name value value' : String) : Prop := outlineOf name value = outlineOf name value'

/-- One more value of an option; parts of the token are not looked into. -/
theorem Alike.put {o : CommandOption} (htext : o.name ∈ tokenOptions → o.kind = .text)
    (h : Alike vs ws) {value value' : String} (hvalue : ValueAlike o.name value value') :
    ExceptRel Eq Alike (vs.put o value) (ws.put o value') := by
  have hpermit : permit o value = permit o value' := by
    by_cases hname : o.name ∈ tokenOptions
    · simp only [permit, htext hname]
    · have hsame : value = value' := by
        simpa only [ValueAlike, outlineOf, hname, if_false] using hvalue
      rw [hsame]
  have hmore : Alike (vs ++ [(o.name, value)]) (ws ++ [(o.name, value')]) := by
    have hvalue : outlineOf o.name value = outlineOf o.name value' := hvalue
    have hvs : vs.map (fun v => (v.1, outlineOf v.1 v.2))
      = ws.map fun v => (v.1, outlineOf v.1 v.2) := h
    simp only [Alike, outlined, List.map_append, hvs, List.map_cons, List.map_nil, hvalue]
  simp only [OptionValues.put, h.isSome_get?, hpermit]
  split
  · exact .error rfl
  · cases permit o value' with
    | error fault => exact .error rfl
    | ok _ => exact .ok hmore

end OptionValues

/-! ### Scanning -/

/-- A command whose parts of the token are texts, and are given by the variables for them. -/
structure CommandSpec.KeepsTokens (c : CommandSpec) : Prop where
  /-- Parts of the token are texts. -/
  text : ∀ o ∈ c.options, o.name ∈ tokenOptions → o.kind = .text
  /-- The variables for the token give nothing else. -/
  environment : ∀ o ∈ c.options, ∀ name, o.envName = some name → name ∈ tokenVariables →
    o.name ∈ tokenOptions
  /-- The names of commands do not look like options. -/
  commands : ∀ w ∈ c.commands, Word.ofText w = .plain

/-- All commands are so. -/
theorem Invocation.keepsTokens :
    program.KeepsTokens ∧ ssh.KeepsTokens ∧ forward.KeepsTokens := by
  refine ⟨⟨?_, ?_, ?_⟩, ⟨?_, ?_, ?_⟩, ⟨?_, ?_, ?_⟩⟩ <;> decide +kernel

variable {c : CommandSpec}

/-- Two options that are kept back, whose values differ at most in the token. -/
inductive PendingOption.Alike (c : CommandSpec) : PendingOption → PendingOption → Prop where
  /-- There is none. -/
  | none : Alike c .none .none
  /-- A value may follow. -/
  | open {o : CommandOption} (known : o ∈ c.options) : Alike c (.open o) (.open o)
  /-- Both have their values. -/
  | valued {o : CommandOption} (known : o ∈ c.options) {value value' : String}
    (values : OptionValues.ValueAlike o.name value value') :
    Alike c (.valued o value) (.valued o value')

namespace Scan

/-- What has been read of arguments that differ in nothing but the token. -/
structure Alike (c : CommandSpec) (s t : Scan) : Prop where
  /-- The values differ in nothing else. -/
  values : OptionValues.Alike s.values t.values
  /-- Nor does the option that is kept back. -/
  pending : PendingOption.Alike c s.pending t.pending

variable {s t : Scan}

theorem Alike.awaits_eq (h : Alike c s t) : s.awaits = t.awaits := by
  have hpending := h.pending
  simp only [awaits]
  revert hpending
  generalize s.pending = p
  generalize t.pending = q
  intro hpending
  cases hpending <;> rfl

theorem Alike.known (h : Alike c s t) {o : CommandOption} (ho : s.awaits = some o) :
    o ∈ c.options := by
  have hpending := h.pending
  revert ho
  simp only [awaits]
  revert hpending
  generalize s.pending = p
  generalize t.pending = q
  rintro (_ | known | _) ho
  · cases ho
  · exact Option.some.inj ho ▸ known
  · cases ho

/-- The option that is kept back is checked. -/
theorem Alike.settle (hc : c.KeepsTokens) (h : Alike c s t) :
    ExceptRel Eq (Alike c) s.settle t.settle := by
  obtain ⟨hvalues, hpending⟩ := h
  obtain ⟨vs, p⟩ := s
  obtain ⟨ws, q⟩ := t
  cases hpending with
  | none => exact .ok ⟨hvalues, .none⟩
  | «open» _ => exact .error rfl
  | @valued o known value value' hvalue =>
    exact (hvalues.put (hc.text o known) hvalue).map fun _ _ h => ⟨h, .none⟩

/-- An option begins, with a value that is attached to it. -/
theorem Alike.begin (hc : c.KeepsTokens) (h : Alike c s t) {o : CommandOption}
    (known : o ∈ c.options) {value value' : Option String}
    (hvalue : Option.Rel (OptionValues.ValueAlike o.name) value value') :
    ExceptRel Eq (Alike c) (s.begin o value) (t.begin o value') := by
  refine (h.settle hc).bind fun s t h => ?_
  cases hvalue with
  | none => exact .ok ⟨h.values, .open known⟩
  | some hvalue => exact (h.values.put (hc.text o known) hvalue).map fun _ _ h => ⟨h, .none⟩

theorem Alike.answer_eq (hc : c.KeepsTokens) (h : Alike c s t) (asked : UsageFault) :
    s.answer asked = t.answer asked := by
  have hsettle := h.settle hc
  simp only [answer]
  revert hsettle
  generalize s.settle = x
  generalize t.settle = y
  rintro (_ | rfl) <;> rfl

end Scan

/-- Arguments that differ in nothing but the service token. After a separator no option follows, so
that there is no token. -/
inductive WordsAlike : List String → List String → Prop where
  /-- There are none. -/
  | nil : WordsAlike [] []
  /-- A word of both. -/
  | word {w : String} {ws ws' : List String} (separator : w = "--" → ws = ws')
    (rest : WordsAlike ws ws') : WordsAlike (w :: ws) (w :: ws')
  /-- Tokens that are attached to their option. -/
  | attached {name t u : String} {ws ws' : List String} (named : name ∈ tokenOptions)
    (left : ServiceToken.IsText t) (right : ServiceToken.IsText u) (rest : WordsAlike ws ws') :
    WordsAlike (("--" ++ name ++ "=" ++ t) :: ws) (("--" ++ name ++ "=" ++ u) :: ws')
  /-- Tokens that are words of their own, and do not look like options. -/
  | apart {name t u : String} {ws ws' : List String} (named : name ∈ tokenOptions)
    (left : ServiceToken.IsText t) (right : ServiceToken.IsText u)
    (leftPlain : Word.ofText t = .plain) (rightPlain : Word.ofText u = .plain)
    (rest : WordsAlike ws ws') :
    WordsAlike (("--" ++ name) :: t :: ws) (("--" ++ name) :: u :: ws')

theorem WordsAlike.refl (ws : List String) : WordsAlike ws ws := by
  induction ws with
  | nil => exact .nil
  | cons w rest ih => exact .word (fun _ => rfl) ih

/-- Where a command below begins in both command lines, or in neither. -/
def Descent.Alike : Descent → Descent → Prop :=
  Option.Rel fun d e => d.1 = e.1 ∧ WordsAlike d.2 e.2

namespace Word

theorem ofText_separator {w : String} (h : ofText w = .separator) : w = "--" := by
  unfold ofText at h
  split at h
  · rename_i hlist
    rw [← w.ofList_toList, hlist]
  · split at h <;> cases h
  · cases h
  · cases h

/-- An option with a value that is attached to it. -/
theorem ofText_attached {name : String} (hname : name ∈ tokenOptions) (t : String) :
    ofText ("--" ++ name ++ "=" ++ t) = .long name (some t) := by
  simp only [tokenOptions, List.mem_cons, List.not_mem_nil, or_false] at hname
  rcases hname with rfl | rfl <;> simp [ofText]

/-- An option alone. -/
theorem ofText_apart {name : String} (hname : name ∈ tokenOptions) :
    ofText ("--" ++ name) = .long name none := by
  have hall : ∀ name ∈ tokenOptions, ofText ("--" ++ name) = .long name none := by decide +kernel
  exact hall name hname

end Word

namespace CommandSpec

/-- What is read of two command lines: scans that differ in nothing but the token, and where the
command below begins. -/
def ScannedAlike (c : CommandSpec) (x y : Scan × Descent) : Prop :=
  Scan.Alike c x.1 y.1 ∧ Descent.Alike x.2 y.2

theorem mem_of_named? {name : String} {o : CommandOption} (h : c.named? name = some o) :
    o ∈ c.options ∧ o.name = name := by
  obtain ⟨hname, hmem⟩ := And.intro (List.find?_some h) (List.mem_of_find?_eq_some h)
  exact ⟨hmem, of_decide_eq_true hname⟩

theorem asked?_token {name : String} (hname : name ∈ tokenOptions) : c.asked? name = none := by
  have hother : ∀ name ∈ tokenOptions, name ≠ "help" ∧ name ≠ "version" := by decide +kernel
  obtain ⟨hhelp, hversion⟩ := hother name hname
  simp [asked?, hhelp, hversion]

/-- A word that looks like an option is no command. -/
theorem not_descends (hc : c.KeepsTokens) {w name : String} {value : Option String}
    (hw : Word.ofText w = .long name value) (s : Scan) :
    ¬ (s.awaits.isNone ∧ w ∈ c.commands) := by
  rintro ⟨-, hcommand⟩
  rw [hc.commands w hcommand] at hw
  cases hw

/-- A part of the token that the command has no option for. -/
theorem scan_unknown (hc : c.KeepsTokens) {name : String} (hname : name ∈ tokenOptions)
    (hnone : c.named? name = none) {w : String} {value : Option String}
    (hw : Word.ofText w = .long name value) (s : Scan) (rest : List String) :
    c.scan s (w :: rest) = .error (.unknownArgument ("--" ++ name)) := by
  unfold scan
  rw [if_neg (not_descends hc hw s), hw]
  simp only [hnone, asked?_token hname]

/-- An option that the command has. -/
theorem scan_named (hc : c.KeepsTokens) {name : String} {o : CommandOption}
    (hsome : c.named? name = some o) {w : String} {value : Option String}
    (hw : Word.ofText w = .long name value) (s : Scan) (rest : List String) :
    c.scan s (w :: rest) = s.begin o value >>= fun s => c.scan s rest := by
  rw [scan.eq_def]
  dsimp only
  rw [if_neg (not_descends hc hw s), hw]
  simp only [hsome]

/-- A plain word is the value of an option that waits for one. -/
theorem scan_value {w : String} (hw : Word.ofText w = .plain) (s : Scan) (o : CommandOption)
    (rest : List String) :
    c.scan { s with pending := .open o } (w :: rest)
      = c.scan { s with pending := .valued o w } rest := by
  rw [scan.eq_def]
  dsimp only
  rw [if_neg (by simp [Scan.awaits]), hw]
  simp only [Scan.awaits]

/-- Two tokens as values of one option. -/
theorem valueAlike_of_isText {name t u : String} (hname : name ∈ tokenOptions)
    (ht : ServiceToken.IsText t) (hu : ServiceToken.IsText u) :
    OptionValues.ValueAlike name t u := by
  simp only [OptionValues.ValueAlike, OptionValues.outlineOf, if_pos hname,
    ServiceToken.outline_of_isText ht, ServiceToken.outline_of_isText hu]

/-- One word of both command lines. -/
theorem scan_word (hc : c.KeepsTokens) {w : String} {ws ws' : List String}
    (separator : w = "--" → ws = ws') (rest : WordsAlike ws ws')
    (ih : ∀ {s t : Scan}, Scan.Alike c s t →
      ExceptRel Eq (ScannedAlike c) (c.scan s ws) (c.scan t ws'))
    {s t : Scan} (hst : Scan.Alike c s t) :
    ExceptRel Eq (ScannedAlike c) (c.scan s (w :: ws)) (c.scan t (w :: ws')) := by
  have hattached {o : CommandOption} (known : o ∈ c.options) (value : Option String) :
      ExceptRel Eq (ScannedAlike c) (s.begin o value >>= fun s => c.scan s ws)
        (t.begin o value >>= fun t => c.scan t ws') := by
    have hvalue : Option.Rel (OptionValues.ValueAlike o.name) value value := by
      cases value with
      | none => exact .none
      | some v => exact .some rfl
    exact (hst.begin hc known hvalue).bind fun _ _ h => ih h
  unfold scan
  -- whether a word is a command below depends on whether a value is awaited
  rw [hst.awaits_eq]
  split
  · exact .ok ⟨hst, .some ⟨rfl, rest⟩⟩
  · cases hform : Word.ofText w with
    | separator =>
      -- no argument is read after it, and the first one is reported
      rw [separator (Word.ofText_separator hform)]
      cases ws' with
      | nil => exact .ok ⟨hst, .none⟩
      | cons word _ => exact .error rfl
    | long name value =>
      dsimp only
      cases hnamed : c.named? name with
      | some o => exact hattached (mem_of_named? hnamed).1 value
      | none =>
        cases c.asked? name with
        | none => exact .error rfl
        | some asked =>
          cases value with
          | none => exact .error (hst.answer_eq hc asked)
          | some value => exact .error rfl
    | short letter rest =>
      dsimp only
      cases hlettered : c.lettered? letter with
      | some o => exact hattached (List.mem_of_find?_eq_some hlettered) _
      | none =>
        cases c.askedLetter? letter with
        | none => exact .error rfl
        | some asked => exact .error (hst.answer_eq hc asked)
    | plain =>
      -- it is a value if an option waits for one, the same option in both
      dsimp only
      cases hawaits : t.awaits with
      | none => exact .error rfl
      | some o =>
        have known := hst.known (hst.awaits_eq.trans hawaits)
        exact ih ⟨hst.values, .valued known rfl⟩

/-- What is read of arguments that differ in nothing but the token differs in nothing else. -/
theorem scan_alike (hc : c.KeepsTokens) {ws ws' : List String} (h : WordsAlike ws ws')
    {s t : Scan} (hst : Scan.Alike c s t) :
    ExceptRel Eq (ScannedAlike c) (c.scan s ws) (c.scan t ws') := by
  induction h generalizing s t with
  | nil => exact .ok ⟨hst, .none⟩
  | word separator rest ih => exact scan_word hc separator rest (fun h => ih h) hst
  | @attached name token token' ws ws' named left right rest ih =>
    have hleft := Word.ofText_attached named token
    have hright := Word.ofText_attached named token'
    cases hnamed : c.named? name with
    | none =>
      rw [scan_unknown hc named hnamed hleft, scan_unknown hc named hnamed hright]
      exact .error rfl
    | some o =>
      obtain ⟨known, rfl⟩ := mem_of_named? hnamed
      rw [scan_named hc hnamed hleft, scan_named hc hnamed hright]
      exact (hst.begin hc known (.some (valueAlike_of_isText named left right))).bind
        fun _ _ h => ih h
  | @apart name token token' ws ws' named left right leftPlain rightPlain rest ih =>
    have hword := Word.ofText_apart named
    cases hnamed : c.named? name with
    | none =>
      rw [scan_unknown hc named hnamed hword, scan_unknown hc named hnamed hword]
      exact .error rfl
    | some o =>
      obtain ⟨known, rfl⟩ := mem_of_named? hnamed
      rw [scan_named hc hnamed hword, scan_named hc hnamed hword]
      simp only [Scan.begin, bind_assoc, pure_bind]
      refine (hst.settle hc).bind fun s t h => ?_
      -- the tokens are taken as values, since neither looks like an option
      rw [scan_value leftPlain, scan_value rightPlain]
      exact ih ⟨h.values, .valued known (valueAlike_of_isText named left right)⟩

/-! ### Variables -/

/-- The variable of an option in environments that differ in nothing but the token. -/
theorem variable_alike (hc : c.KeepsTokens) {o : CommandOption} (known : o ∈ c.options)
    {env env' : Environment} (henv : env.Alike env') :
    Option.Rel (OptionValues.ValueAlike o.name) (o.envName.bind env) (o.envName.bind env') := by
  cases hvariable : o.envName with
  | none => exact .none
  | some name =>
    simp only [Option.bind_some]
    by_cases htoken : name ∈ tokenVariables
    · have hname := hc.environment o known name hvariable htoken
      have hrel := henv.tokens name htoken
      revert hrel
      generalize env name = x
      generalize env' name = y
      rintro (h | _)
      · refine .some ?_
        simp only [OptionValues.ValueAlike, OptionValues.outlineOf, if_pos hname, h.outline_eq]
      · exact .none
    · -- any other variable is the same, and so is what it gives
      rw [henv.same name htoken]
      cases env' name with
      | none => exact .none
      | some value => exact .some rfl

theorem addVariables_alike (hc : c.KeepsTokens) {env env' : Environment} (henv : env.Alike env')
    {os : List CommandOption} (hos : ∀ o ∈ os, o ∈ c.options) {vs ws : OptionValues}
    (h : OptionValues.Alike vs ws) :
    ExceptRel Eq OptionValues.Alike (vs.addVariables env os) (ws.addVariables env' os) := by
  induction os generalizing vs ws with
  | nil => exact .ok h
  | cons o rest ih =>
    have known := hos o List.mem_cons_self
    have hrest : ∀ o ∈ rest, o ∈ c.options := fun o ho => hos o (List.mem_cons_of_mem _ ho)
    have hvariable := variable_alike hc known henv
    simp only [OptionValues.addVariables]
    revert hvariable
    generalize o.envName.bind env = x
    generalize o.envName.bind env' = y
    rintro (hvalue | _)
    · dsimp only
      rw [h.isSome_get?]
      split
      · exact ih hrest h
      · have hput := h.put (hc.text o known) hvalue
        revert hput
        generalize vs.put o _ = l
        generalize ws.put o _ = r
        rintro (hput | rfl)
        · exact ih hrest hput
        · exact .error rfl
    · exact ih hrest h

/-- The values at the end of the arguments. -/
theorem complete_alike (hc : c.KeepsTokens) {env env' : Environment} (henv : env.Alike env')
    {s t : Scan} (h : Scan.Alike c s t) :
    ExceptRel Eq OptionValues.Alike (c.complete env s) (c.complete env' t) :=
  (h.settle hc).bind fun _ _ h => addVariables_alike hc henv (fun _ ho => ho) h.values

theorem require_alike {vs ws : OptionValues} (h : OptionValues.Alike vs ws) :
    c.require vs = c.require ws := by
  simp only [require, h.isSome_get?]

end CommandSpec

/-! ### What is asked for -/

/-- Arguments with the token outlined. -/
def SshArguments.outlined (a : SshArguments) : SshArguments :=
  { a with
    tokenId := a.tokenId.map ServiceToken.outline
    tokenSecret := a.tokenSecret.map ServiceToken.outline }

/-- A command with the token outlined. -/
def ProgramCommand.outlined : ProgramCommand → ProgramCommand
  | .ssh a => .ssh a.outlined
  | .forward path => .forward path

namespace Invocation

/-- What is asked for, with the token outlined. -/
def outlined (i : Invocation) : Invocation := { i with command := i.command.outlined }

/-- Two invocations that differ in nothing but the token. -/
def Alike (i j : Invocation) : Prop := i.outlined = j.outlined

/-- Whether the command of a command line is the one for help. -/
def AsksHelp (arguments : List String) : Prop :=
  ∃ s rest, program.scan {} arguments = .ok (s, some ("help", rest))

theorem sshArguments_alike {vs ws : OptionValues} (h : OptionValues.Alike vs ws) :
    (sshArguments vs).outlined = (sshArguments ws).outlined := by
  simp only [sshArguments, SshArguments.outlined]
  rw [h.get?_shown (by decide : "hostname" ∉ tokenOptions),
    h.all_shown (by decide : "header" ∉ tokenOptions),
    h.get?_token (by decide : "service-token-id" ∈ tokenOptions),
    h.get?_token (by decide : "service-token-secret" ∈ tokenOptions),
    h.get?_shown (by decide : "destination" ∉ tokenOptions),
    h.get?_shown (by decide : "connect-to" ∉ tokenOptions),
    h.get?_shown (by decide : "url" ∉ tokenOptions),
    h.get?_shown (by decide : "connection-timeout" ∉ tokenOptions)]

/-- The values of a command's options. -/
theorem below_alike {c : CommandSpec} (hc : c.KeepsTokens) {env env' : Environment}
    (henv : env.Alike env') {ws ws' : List String} (h : WordsAlike ws ws') :
    ExceptRel Eq (fun x y => OptionValues.Alike x.1 y.1 ∧ x.2 = y.2) (below c env ws)
      (below c env' ws') := by
  refine (CommandSpec.scan_alike hc h ⟨rfl, .none⟩).bind ?_
  rintro ⟨s, d⟩ ⟨t, d'⟩ ⟨hst, -⟩
  refine (hst.settle hc).bind fun given given' hgiven => ?_
  refine (CommandSpec.complete_alike hc henv hst).bind fun vs vs' hvs => ?_
  rw [CommandSpec.require_alike hvs, hgiven.values.isSome_get?]
  cases c.require vs' with
  | error fault => exact .error rfl
  | ok _ => exact .ok ⟨hvs, rfl⟩

/-- Command lines that differ in nothing but the token ask for the same but for it, or have the same
fault, in environments that differ in nothing but the token. -/
theorem parse_alike {env env' : Environment} (henv : env.Alike env') {ws ws' : List String}
    (h : WordsAlike ws ws') (hhelp : AsksHelp ws → ws = ws') :
    ExceptRel Eq Alike (parse env ws) (parse env' ws') := by
  by_cases hask : AsksHelp ws
  · obtain rfl := hhelp hask
    obtain ⟨s, rest, hscan⟩ := hask
    simp only [parse, hscan]
    exact .error rfl
  obtain ⟨hprogram, hssh, hforward⟩ := keepsTokens
  have hscan : ExceptRel Eq (CommandSpec.ScannedAlike program) (program.scan {} ws)
      (program.scan {} ws') :=
    CommandSpec.scan_alike hprogram h ⟨rfl, .none⟩
  have hother : ∀ s rest, program.scan {} ws ≠ .ok (s, some ("help", rest)) :=
    fun s rest hs => hask ⟨s, rest, hs⟩
  simp only [parse]
  revert hscan hother
  generalize program.scan {} ws = x
  generalize program.scan {} ws' = y
  rintro (@⟨⟨s, d⟩, ⟨t, d'⟩, hst, hdescent⟩ | rfl) hother
  · have hcomplete := CommandSpec.complete_alike hprogram henv hst
    cases hdescent with
    | none =>
      refine hcomplete.bind fun vs vs' hvs => .error ?_
      simp only [withoutCommand, hvs.isEmpty_eq]
    | @some p q hpair =>
      obtain ⟨name, rest⟩ := p
      obtain ⟨name', rest'⟩ := q
      obtain ⟨rfl, hrest⟩ := hpair
      have hname : name ≠ "help" := by
        rintro rfl
        exact hother s rest rfl
      have hspec : (if name = "ssh" then ssh else forward).KeepsTokens := by
        split
        · exact hssh
        · exact hforward
      have hlevel : "log-level" ∉ tokenOptions := by decide
      have hconfig : "config" ∉ tokenOptions := by decide
      simp only [ExceptRel.ok_bind, if_neg hname]
      refine (below_alike hspec henv hrest).bind ?_
      rintro ⟨values, levelled⟩ ⟨values', _⟩ ⟨hvalues, rfl⟩
      refine hcomplete.bind fun above above' habove => .ok ?_
      simp only [Alike, outlined, hvalues.get?_shown hlevel, habove.get?_shown hlevel,
        hvalues.get?_shown hconfig]
      by_cases hssh : name = "ssh"
      · simp only [if_pos hssh, ProgramCommand.outlined, sshArguments_alike hvalues]
      · simp only [if_neg hssh]
  · exact .error rfl

end Invocation

end Carrier
