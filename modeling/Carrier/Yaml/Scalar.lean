import Carrier.Text.Decimal
import Carrier.Yaml.Cursor

/-!
# Reading scalars

- `ScalarStyle`: the ways a scalar is written.
- `Plain.read`: a scalar without quotes.
- `Quoted.read`: a scalar in single or double quotes.
- `Block.read`: a literal or folded scalar, which is a block of lines.

Each returns the text of the scalar and the cursor after it. The loops are bounded by the length of
the text that is left, since every turn takes a character of it.

These are the scalars that the scanner behind `serde_yaml` reads.
-/

namespace Carrier

namespace Yaml

/-- The ways a scalar is written. -/
inductive ScalarStyle where
  | plain
  | singleQuoted
  | doubleQuoted
  | literal
  | folded
  deriving DecidableEq, Repr

/-- A scalar that has been read. -/
structure ScannedScalar where
  /-- Its text. -/
  text : List Char
  /-- Where it ends. -/
  stop : Mark
  /-- Whether a line has ended since. -/
  brokenAfter : Bool
  deriving DecidableEq, Repr

/-! ### Plain scalars -/

namespace Plain

/-- Characters that end a plain scalar within brackets. -/
def endsInFlow (c : Char) : Bool := c == ',' || c == '[' || c == ']' || c == '{' || c == '}'

/-- The characters of a word, and whether a colon stands where it may not. -/
def word (flow : Bool) : List Char → List Char × Bool
  | [] => ([], false)
  | c :: rest =>
    if isBlank c || isBreak c then ([], false)
    else if flow && c == ':' && rest.head?.any (fun d => endsInFlow d || d == '?') then ([], true)
    else if (c == ':' && endsWord rest) || (flow && endsInFlow c) then ([], false)
    else
      let (chars, refused) := word flow rest
      (c :: chars, refused)

/-- Reads words and the gaps between them; `text` is what has been read, in reverse, and `gap`
what has been read since. -/
def words (flow : Bool) (indent : Int) (start : Mark) :
    Nat → List Char → Mark → Gap → Cursor → Except YamlFault (ScannedScalar × Cursor)
  | 0, text, stop, gap, c => .ok (⟨text.reverse, stop, gap.isBroken⟩, c)
  | fuel + 1, text, stop, gap, c =>
    let done : ScannedScalar × Cursor := (⟨text.reverse, stop, gap.isBroken⟩, c)
    if c.atAnyDocument || c.at? '#' then .ok done
    else
      let (chars, refused) := word flow c.rest
      let after : Cursor := ⟨c.rest.drop chars.length, c.mark.plus chars.length⟩
      if refused then .error ⟨.colonInFlow, after.mark, 0, some (.plainScalar, start)⟩
      else if chars.isEmpty then .ok done
      else
        let text := chars.reverse ++ (gap.folded.reverse ++ text)
        match Gap.take (some indent) {} after.mark after.rest with
        | .error m => .error ⟨.tabInPlain, m, 0, some (.plainScalar, start)⟩
        | .ok (gap, next) =>
          if next.rest.length = after.rest.length then
            .ok (⟨text.reverse, after.mark, false⟩, next)
          else if !flow && decide ((next.mark.column : Int) < indent) then
            .ok (⟨text.reverse, after.mark, gap.isBroken⟩, next)
          else words flow indent start fuel text after.mark gap next

/-- Reads a plain scalar. Outside brackets a line that begins before column `indent` ends it. -/
def read (flow : Bool) (indent : Int) (c : Cursor) : Except YamlFault (ScannedScalar × Cursor) :=
  words flow indent c.mark (c.rest.length + 1) [] c.mark {} c

end Plain

/-! ### Quoted scalars -/

namespace Quoted

/-- What stands for a character after a backslash. -/
inductive Escape where
  /-- The character itself. -/
  | char (c : Char)
  /-- A code point of so many hexadecimal digits. -/
  | code (digits : Nat)

/-- What the character after a backslash stands for. -/
def escape? (c : Char) : Option Escape :=
  match c with
  | '0' => some (.char '\x00')
  | 'a' => some (.char '\x07')
  | 'b' => some (.char '\x08')
  | 't' => some (.char '\t')
  | '\t' => some (.char '\t')
  | 'n' => some (.char '\n')
  | 'v' => some (.char '\x0b')
  | 'f' => some (.char '\x0c')
  | 'r' => some (.char '\r')
  | 'e' => some (.char '\x1b')
  | ' ' => some (.char ' ')
  | '"' => some (.char '"')
  | '/' => some (.char '/')
  | '\\' => some (.char '\\')
  | 'N' => some (.char '\u0085')
  | '_' => some (.char '\u00a0')
  | 'L' => some (.char '\u2028')
  | 'P' => some (.char '\u2029')
  | 'x' => some (.code 2)
  | 'u' => some (.code 4)
  | 'U' => some (.code 8)
  | _ => none

/-- The character after a backslash and the cursor after it. -/
def readEscape (start : Mark) (c : Cursor) : Except YamlFault (Char × Cursor) :=
  let fault (p : Problem) (m : Mark) : YamlFault := ⟨p, m, 0, some (.quotedEscape, start)⟩
  match c.rest with
  | _ :: x :: rest =>
    match escape? x with
    | none => .error (fault .unknownEscape c.mark)
    | some (.char y) => .ok (y, ⟨rest, c.mark.plus 2⟩)
    | some (.code digits) =>
      let m := c.mark.plus 2
      let taken := rest.take digits
      if taken.length = digits ∧ taken.all fun d => (Text.hexValue? d).isSome then
        let n := (Text.readDigits? 16 0 taken).getD 0
        if n.isValidChar then .ok (Char.ofNat n, ⟨rest.drop digits, m.plus digits⟩)
        else .error (fault .badCodePoint m)
      else .error (fault .noHexNumber m)
  | _ => .error (fault .unknownEscape c.mark)

/-- Reads words up to a blank, a line end or the closing quote. The result tells whether a line
was ended by a backslash. -/
def word (single : Bool) (start : Mark) :
    Nat → List Char → Cursor → Except YamlFault (List Char × Bool × Cursor)
  | 0, text, c => .ok (text, false, c)
  | fuel + 1, text, c =>
    match c.rest with
    | [] => .ok (text, false, c)
    | x :: rest =>
      if isBlank x || isBreak x then .ok (text, false, c)
      else if single && x == '\'' && rest.head? == some '\'' then
        word single start fuel ('\'' :: text) c.skip.skip
      else if x == (if single then '\'' else '"') then .ok (text, false, c)
      else if !single && x == '\\' then
        if rest.head?.any isBreak then .ok (text, true, c.skip.skipBreak)
        else
          match readEscape start c with
          | .error fault => .error fault
          | .ok (y, c) => word single start fuel (y :: text) c
      else word single start fuel (x :: text) c.skip

/-- What becomes of a gap in quotes, where `joined` tells that the line was ended by a backslash:
then blanks at its end and the first line end are gone already. -/
def folded (joined : Bool) (g : Gap) : List Char :=
  if joined then (g.first.toList ++ g.more.reverse) else g.folded

/-- Reads words and the gaps between them up to the closing quote. -/
def words (single : Bool) (start : Mark) :
    Nat → List Char → Cursor → Except YamlFault (List Char × Cursor)
  | 0, text, c => .ok (text, c)
  | fuel + 1, text, c =>
    let fault (p : Problem) : YamlFault := ⟨p, c.mark, 0, some (.quotedScalar, start)⟩
    if c.atAnyDocument then .error (fault .documentInQuotes)
    else if c.rest.isEmpty then .error (fault .endInQuotes)
    else
      match word single start (c.rest.length + 1) text c with
      | .error fault => .error fault
      | .ok (text, joined, c) =>
        if c.at? (if single then '\'' else '"') then .ok (text, c.skip)
        else
          match Gap.take none {} c.mark c.rest with
          | .error m => .error ⟨.endInQuotes, m, 0, some (.quotedScalar, start)⟩
          | .ok (gap, c) =>
            words single start fuel ((folded joined gap).reverse ++ text) c

/-- Reads a quoted scalar, from its opening quote on. -/
def read (single : Bool) (c : Cursor) : Except YamlFault (ScannedScalar × Cursor) :=
  match words single c.mark (c.rest.length + 1) [] c.skip with
  | .error fault => .error fault
  | .ok (text, after) => .ok (⟨text.reverse, after.mark, false⟩, after)

end Quoted

/-! ### Block scalars -/

namespace Block

/-- What becomes of the line ends after the last line. -/
inductive Chomping where
  /-- None is kept. -/
  | strip
  /-- The first is kept. -/
  | clip
  /-- All are kept. -/
  | keep
  deriving DecidableEq, Repr

/-- The sign for what becomes of the last line ends. -/
def chomping? : Option Char → Option Chomping
  | some '+' => some .keep
  | some '-' => some .strip
  | _ => none

/-- The header after `|` or `>`: what becomes of the last line ends, and by how much the block is
indented. Both signs may be left out and stand in either order. -/
def readHeader (start : Mark) (c : Cursor) :
    Except YamlFault (Chomping × Option Nat × Cursor) :=
  let indent (c : Cursor) : Except YamlFault (Option Nat × Cursor) :=
    match c.peek?.bind Text.digitValue? with
    | none => .ok (none, c)
    | some 0 => .error ⟨.zeroIndent, c.mark, 0, some (.blockScalar, start)⟩
    | some n => .ok (some n, c.skip)
  match chomping? c.peek? with
  | some chomping => (indent c.skip).map fun (n, c) => (chomping, n, c)
  | none =>
    (indent c).map fun (n, c) =>
      match n, chomping? c.peek? with
      | some n, some chomping => (chomping, some n, c.skip)
      | _, _ => (.clip, n, c)

/-- The indentation and the empty lines before the next line that is not empty. -/
structure Lines where
  /-- The line ends, in reverse. -/
  breaks : List Char
  /-- The widest indentation. -/
  widest : Nat
  /-- Where the last empty line ends. -/
  stop : Mark
  /-- The cursor at the line that is not empty. -/
  cursor : Cursor

/-- Passes empty lines and indentation; with no `indent` given all spaces count as such. -/
def passEmpty (start : Mark) (indent : Option Nat) :
    Nat → Lines → Except YamlFault Lines
  | 0, s => .ok s
  | fuel + 1, s =>
    let room := (indent.getD (s.cursor.rest.length + s.cursor.mark.column)) - s.cursor.mark.column
    let spaces := ((s.cursor.rest.take room).takeWhile (· == ' ')).length
    let c : Cursor := ⟨s.cursor.rest.drop spaces, s.cursor.mark.plus spaces⟩
    let widest := max s.widest c.mark.column
    let within := indent.all (c.mark.column < ·)
    if within && c.at? '\t' then .error ⟨.tabInIndent, c.mark, 0, some (.blockScalar, start)⟩
    else if c.peek?.any isBreak then
      let (kept, c) := c.takeBreak
      passEmpty start indent fuel ⟨kept.reverse ++ s.breaks, widest, c.mark, c⟩
    else .ok { s with widest := widest, cursor := c }

/-- What has been read of a block. -/
structure Body where
  /-- The text, in reverse. -/
  text : List Char
  /-- The line end after the last line that is not empty. -/
  last : List Char
  /-- The ends of the empty lines since, in reverse. -/
  breaks : List Char
  /-- Whether the last line began with a blank. -/
  indented : Bool
  /-- Where the block ends. -/
  stop : Mark
  /-- The cursor after it. -/
  cursor : Cursor

/-- Reads the lines of a block. In a folded one a single line end between two lines that begin
with no blank becomes a space. -/
def lines (literal : Bool) (start : Mark) (indent : Nat) :
    Nat → Body → Except YamlFault Body
  | 0, b => .ok b
  | fuel + 1, b =>
    if b.cursor.mark.column = indent ∧ ¬ b.cursor.rest.isEmpty then
      let indented := b.cursor.peek?.any Yaml.isBlank
      let joined :=
        if !literal && b.last == ['\n'] && !b.indented && !indented then
          if b.breaks.isEmpty then [' '] else []
        else b.last
      let (line, c) := b.cursor.span (!isBreak ·)
      let (last, c) := c.takeBreak
      match passEmpty start (some indent) (c.rest.length + 1) ⟨[], 0, c.mark, c⟩ with
      | .error fault => .error fault
      | .ok empty =>
        lines literal start indent fuel
          ⟨line.reverse ++ (b.breaks ++ (joined.reverse ++ b.text)), last, empty.breaks, indented,
            empty.stop, empty.cursor⟩
    else .ok b

/-- Reads a block scalar from its sign on; `parent` is the indentation of the node around it. -/
def read (literal : Bool) (parent : Int) (c : Cursor) :
    Except YamlFault (ScannedScalar × Cursor) := do
  let start := c.mark
  let (chomping, increment, c) ← readHeader start c.skip
  let c ←
    match c.afterComment? with
    | .ok c => pure c
    | .error m => throw ⟨.noCommentOrBreak, m, 0, some (.blockScalar, start)⟩
  let given := increment.map fun n => if 0 ≤ parent then parent.toNat + n else n
  let empty ← passEmpty start given (c.rest.length + 1) ⟨[], 0, c.mark, c⟩
  let indent := given.getD (max (max empty.widest (parent + 1).toNat) 1)
  let body ← lines literal start indent (empty.cursor.rest.length + 1)
    ⟨[], [], empty.breaks, false, empty.stop, empty.cursor⟩
  let text := if chomping = .strip then body.text else body.last.reverse ++ body.text
  let text := if chomping = .keep then body.breaks ++ text else text
  pure (⟨text.reverse, body.stop, false⟩, body.cursor)

end Block

end Yaml

end Carrier
