import Carrier.CommandLine.Fault
import Carrier.Config.Expansion

/-!
# Options on a command line

- `Word`: an argument by its form.
- `CommandSpec`: the options of a command and the commands below it.
- `Scan`: what has been read. The last option is kept back until its value is complete, and is
  checked when the next option or the end is met.
- `CommandSpec.scan`: reads up to the name of a command below, or to the end.
- `CommandSpec.complete`: adds the values of environment variables and checks what is required.

Reading and its faults are those of the parser `clap`.
-/

namespace Carrier

/-! ### Words -/

/-- An argument by its form. -/
inductive Word where
  /-- Two hyphens alone: no option follows. -/
  | separator
  /-- `--name` or `--name=value`. -/
  | long (name : String) (value : Option String)
  /-- One hyphen, a letter, and what follows it. -/
  | short (letter : Char) (rest : List Char)
  /-- Anything else. -/
  | plain
  deriving DecidableEq, Repr

/-- The form of an argument. -/
def Word.ofText (s : String) : Word :=
  match s.toList with
  | ['-', '-'] => .separator
  | '-' :: '-' :: rest =>
    match rest.dropWhile (· ≠ '=') with
    | _ :: value => .long (String.ofList (rest.takeWhile (· ≠ '='))) (some (String.ofList value))
    | [] => .long (String.ofList rest) none
  | '-' :: letter :: rest => .short letter rest
  | _ => .plain

/-- The value that follows the letter of an option in the same argument. -/
def Word.attached? : List Char → Option String
  | [] => none
  | '=' :: value => some (String.ofList value)
  | value => some (String.ofList value)

/-! ### Commands -/

/-- The options of a command and the commands below it. -/
structure CommandSpec where
  /-- Its options. -/
  options : List CommandOption
  /-- The names of the commands below it. -/
  commands : List String := []
  /-- Whether it tells its version. -/
  versioned : Bool := false
  deriving Repr

namespace CommandSpec

/-- The option of a name. -/
def named? (c : CommandSpec) (name : String) : Option CommandOption :=
  c.options.find? (·.name = name)

/-- The option of a letter. -/
def lettered? (c : CommandSpec) (letter : Char) : Option CommandOption :=
  c.options.find? (·.letter = some letter)

/-- What is asked for by a name that takes no value. -/
def asked? (c : CommandSpec) (name : String) : Option UsageFault :=
  if name = "help" then some .helpAsked
  else if c.versioned ∧ name = "version" then some .versionAsked
  else none

/-- What is asked for by a letter that takes no value. -/
def askedLetter? (c : CommandSpec) (letter : Char) : Option UsageFault :=
  if letter = 'h' then some .helpAsked
  else if c.versioned ∧ letter = 'V' then some .versionAsked
  else none

/-- The fault of a word that is no option. After a separator the name of a command is none. -/
def stray (c : CommandSpec) (separated : Bool) (word : String) : UsageFault :=
  if c.commands.isEmpty ∨ (separated ∧ word ∈ c.commands) then .unknownArgument word
  else .unknownCommand word

end CommandSpec

/-! ### Values -/

/-- Values of options, by name. -/
abbrev OptionValues := List (String × String)

namespace OptionValues

/-- The values of an option, in order. -/
def all (vs : OptionValues) (name : String) : List String :=
  (vs.filter (·.1 = name)).map (·.2)

/-- The value of an option that is given at most once. -/
def get? (vs : OptionValues) (name : String) : Option String := vs.lookup name

/-- Whether a value is one that an option may have. -/
def permit (o : CommandOption) (value : String) : Except UsageFault Unit :=
  match o.kind with
  | .text => .ok ()
  | .path => if value.isEmpty then .error (.noValue o) else .ok ()
  | .seconds =>
    match Text.readBounded (Nat.pow 2 64) value.toList with
    | .ok _ => .ok ()
    | .error fault => .error (.invalidValue value o fault)

/-- The values with one more. -/
def put (vs : OptionValues) (o : CommandOption) (value : String) :
    Except UsageFault OptionValues :=
  if ¬ o.repeatable ∧ (vs.get? o.name).isSome then .error (.repeated o)
  else (permit o value).map fun _ => vs ++ [(o.name, value)]

/-- The values with those that environment variables give. -/
def addVariables (env : Environment) (vs : OptionValues) :
    List CommandOption → Except UsageFault OptionValues
  | [] => .ok vs
  | o :: rest =>
    match o.envName.bind env with
    | none => addVariables env vs rest
    | some value =>
      if (vs.get? o.name).isSome then addVariables env vs rest
      else
        match vs.put o value with
        | .error fault => .error fault
        | .ok vs => addVariables env vs rest

end OptionValues

/-! ### Scanning -/

/-- An option that has been met and is not yet checked. -/
inductive PendingOption where
  /-- There is none. -/
  | none
  /-- Its value may follow. -/
  | open (option : CommandOption)
  /-- It has its value. -/
  | valued (option : CommandOption) (value : String)
  deriving DecidableEq, Repr

/-- What has been read of a command line. -/
structure Scan where
  /-- The values that have been checked. -/
  values : OptionValues := []
  /-- The option that is not yet checked. -/
  pending : PendingOption := .none
  deriving Repr

namespace Scan

/-- The scan after the pending option has been checked. -/
def settle (s : Scan) : Except UsageFault Scan :=
  match s.pending with
  | .none => .ok s
  | .open o => .error (.noValue o)
  | .valued o value => (s.values.put o value).map fun vs => ⟨vs, .none⟩

/-- Whether the next plain word is a value. -/
def awaits (s : Scan) : Option CommandOption :=
  match s.pending with
  | .open o => some o
  | _ => none

/-- Begins an option, with the value that is attached to it. -/
def begin (s : Scan) (o : CommandOption) (value : Option String) : Except UsageFault Scan := do
  let s ← s.settle
  match value with
  | none => pure { s with pending := .open o }
  | some value => (s.values.put o value).map fun vs => ⟨vs, .none⟩

/-- Answers a question for help or the version, if the pending option is right. -/
def answer (s : Scan) (asked : UsageFault) : UsageFault :=
  match s.settle with
  | .ok _ => asked
  | .error fault => fault

end Scan

/-- The name of a command below, and the arguments after it. -/
abbrev Descent := Option (String × List String)

namespace CommandSpec

/-- Reads arguments up to the name of a command below, or to the end. -/
def scan (c : CommandSpec) : Scan → List String → Except UsageFault (Scan × Descent)
  | s, [] => .ok (s, none)
  | s, word :: rest =>
    if s.awaits.isNone ∧ word ∈ c.commands then .ok (s, some (word, rest))
    else
      match Word.ofText word with
      | .separator =>
        match rest with
        | [] => .ok (s, none)
        | stray :: _ => .error (c.stray true stray)
      | .long name value =>
        match c.named? name, c.asked? name, value with
        | some o, _, _ => do scan c (← s.begin o value) rest
        | none, some asked, none => .error (s.answer asked)
        | none, some _, some value => .error (.unneededValue value name)
        | none, none, _ => .error (.unknownArgument ("--" ++ name))
      | .short letter attached =>
        match c.lettered? letter, c.askedLetter? letter with
        | some o, _ => do scan c (← s.begin o (Word.attached? attached)) rest
        | none, some asked => .error (s.answer asked)
        | none, none => .error (.unknownArgument (String.ofList ['-', letter]))
      | .plain =>
        match s.awaits with
        | some o => scan c { s with pending := .valued o word } rest
        | none => .error (c.stray false word)

/-- The values at the end of the arguments. -/
def complete (c : CommandSpec) (env : Environment) (s : Scan) :
    Except UsageFault OptionValues := do
  let s ← s.settle
  s.values.addVariables env c.options

/-- Whether all options are there that must be given. -/
def require (c : CommandSpec) (vs : OptionValues) : Except UsageFault Unit :=
  if c.options.all fun o => ¬ o.required ∨ (vs.get? o.name).isSome then .ok ()
  else .error .missingRequired

end CommandSpec

end Carrier
