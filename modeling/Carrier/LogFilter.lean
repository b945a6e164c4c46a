import Carrier.Text.Blank
import Carrier.Text.Decimal
import Carrier.Text.Search

/-!
# Filters for the log

A filter is a list of directives with commas between them. A directive names a level, a target, or
a target with a level; between brackets it may name a span and its fields.

- `LogFilterFault`: why a text is no filter.
- `LogFilter.checkDirective`: whether a text is a directive.
- `LogFilter.check`: whether a text is a filter.
- `LogFilter.choose`: the filter that counts.
- `LogFilter.shows`: the level that a filter shows.

These are the filters of `tracing_subscriber`, as the program's `init_logging` reads them.
-/

namespace Carrier

/-- Why a text is no filter. -/
inductive LogFilterFault where
  /-- A directive is malformed. -/
  | directive
  /-- The level of a directive is none. -/
  | level
  deriving DecidableEq, Repr

namespace LogFilterFault

/-- The wording of a level that is none. -/
def levelText : String :=
  "error parsing level filter: expected one of \"off\", \"error\", \"warn\", \"info\", \"debug\", " ++
    "\"trace\", or a number 0-5"

/-- The wordings of a fault and of those below it, outermost first. -/
def chain : LogFilterFault → List String
  | .directive => ["invalid filter directive"]
  | .level => [levelText, levelText]

end LogFilterFault

namespace LogFilter

/-- The names of the levels; each shows the records of those in front of it, and its own. -/
def levels : List String := ["off", "error", "warn", "info", "debug", "trace"]

/-- The number of the level that a text is: a name in any case, or a number up to five. -/
def level? (s : List Char) : Option Nat :=
  match levels.idxOf? (Text.lowerAscii (String.ofList s)) with
  | some n => some n
  | none =>
    match Text.readBounded (Nat.pow 2 64) s with
    | .ok n => if n ≤ 5 then some n else none
    | .error _ => none

/-- Whether a text is a level. -/
def isLevel (s : List Char) : Bool := (level? s).isSome

/-- What is being read of a directive. -/
inductive Part where
  | start
  /-- A level or a target. -/
  | name
  /-- The name of a span. -/
  | span
  /-- A field of a span; whether anything of it has been read. -/
  | field (begun : Bool)
  /-- What follows the fields of a span. -/
  | fields
  /-- What follows a span. -/
  | target
  /-- A level that began after so many characters. -/
  | level (first : Nat)
  deriving DecidableEq, Repr

/-- Whether a directive may begin with a character. -/
def begins (c : Char) : Bool := c.isAlphanum || 0x80 ≤ c.toNat || ['-', ':', '_'].contains c

/-- One character of a directive, which so many precede. -/
def Part.step (p : Part) (index : Nat) (c : Char) : Except LogFilterFault Part :=
  match p with
  | .start =>
    if c = '[' then .ok .span else if begins c then .ok .name else .error .directive
  | .name =>
    if c = '=' then .ok (.level (index + 1)) else if c = '[' then .ok .span else .ok .name
  | .span =>
    if c = ']' then .ok .target else if c = '{' then .ok (.field false) else .ok .span
  | .field begun =>
    if c = '}' then if begun then .ok .fields else .error .directive else .ok (.field true)
  | .fields => if c = ']' then .ok .target else .error .directive
  | .target => if c = '=' then .ok (.level (index + 1)) else .error .directive
  | .level first => .ok (.level first)

/-- Reads a directive from left to right. -/
def read (p : Part) (index : Nat) : List Char → Except LogFilterFault Part
  | [] => .ok p
  | c :: rest =>
    match p.step index c with
    | .error fault => .error fault
    | .ok p => read p (index + 1) rest

/-- Whether a text is a directive. Blanks around it are passed over, but the level is looked for at
its distance from the beginning of the whole text. -/
def checkDirective (s : List Char) : Except LogFilterFault Unit :=
  match read .start 0 (Text.strip Text.isBlank s) with
  | .error fault => .error fault
  | .ok (.level first) =>
    let level := s.drop first
    if level.isEmpty || isLevel level then .ok () else .error .level
  | .ok .name | .ok .target => .ok ()
  | .ok _ => .error .directive

/-- Checks directives from left to right. -/
def checkAll : List (List Char) → Except LogFilterFault Unit
  | [] => .ok ()
  | s :: rest =>
    match checkDirective s with
    | .error fault => .error fault
    | .ok _ => checkAll rest

/-- Whether a text is a filter; an empty one is. -/
def check (s : String) : Except LogFilterFault Unit :=
  if s.isEmpty then .ok () else checkAll (Text.fields ',' s.toList)

/-- The environment variable that holds a filter. -/
def envName : String := "RUST_LOG"

/-- The filter that counts: the environment's, if it is one, or else a given one. -/
def choose (fromEnvironment : Option String) (given : String) : Except LogFilterFault String :=
  match fromEnvironment with
  | none => (check given).map fun _ => given
  | some filter =>
    match check filter with
    | .ok _ => .ok filter
    | .error _ => (check given).map fun _ => given

/-- The number of the level that a filter shows where it names neither target nor span; only errors
are shown where it is empty. -/
def shows (filter : String) : Nat :=
  if filter.isEmpty then 1
  else
    let named := (Text.fields ',' filter.toList).filterMap fun s => level? (Text.strip Text.isBlank s)
    named.getLast?.getD 0

end LogFilter

end Carrier
