import Carrier.Yaml.Token

/-!
# The tokens of a YAML text

- `Scanner`: what is known while tokens are read: indentation, brackets, and where a key may have
  begun.
- `Scanner.fetch`: one turn, which reads one token of the text.
- `TokenStream`: all tokens up to the end or to a fault.
- `TokenStream.ofText`: the tokens of a text.

A scalar is known to be a key only when the colon after it is met. Until then it is kept back, and
so is everything after it. A key must end in the line where it begins, within 1024 characters.

This is the scanner behind `serde_yaml`.
-/

namespace Carrier

namespace Yaml

/-- A place where a key may have begun. -/
structure PossibleKey where
  /-- Nothing else can have begun there. -/
  required : Bool
  /-- How many tokens precede it. -/
  number : Nat
  /-- Where it is. -/
  mark : Mark
  deriving DecidableEq, Repr

/-- What is known while tokens are read. -/
structure Scanner where
  /-- Where the reading stands. -/
  cursor : Cursor
  /-- The stream has begun. -/
  begun : Bool := false
  /-- How many brackets are open. -/
  flow : Nat := 0
  /-- The tokens that are kept back. -/
  queue : List Token := []
  /-- How many tokens have been handed out. -/
  taken : Nat := 0
  /-- A key may begin here. -/
  keyAllowed : Bool := false
  /-- Where a key may have begun, for each open bracket and around them all, the innermost
  first. -/
  keys : List (Option PossibleKey) := []
  /-- The column of the block that is open; -1 for none. -/
  indent : Int := -1
  /-- The columns of the blocks around it. -/
  indents : List Int := []
  deriving Repr

namespace Scanner

/-- A fault at the cursor. -/
def fault (s : Scanner) (p : Problem) (context : Option (Context × Mark)) : YamlFault :=
  ⟨p, s.cursor.mark, 0, context⟩

/-- Adds a token at the end. -/
def push (s : Scanner) (t : Token) : Scanner := { s with queue := s.queue ++ [t] }

/-- Adds a token before those from a number on. -/
def insert (s : Scanner) (number : Nat) (t : Token) : Scanner :=
  let at' := number - s.taken
  { s with queue := s.queue.take at' ++ t :: s.queue.drop at' }

/-- Adds a sign of `n` characters that come next. -/
def pushSign (s : Scanner) (kind : TokenKind) (n : Nat) : Scanner :=
  let after : Cursor := ⟨s.cursor.rest.drop n, s.cursor.mark.plus n⟩
  { s with cursor := after }.push ⟨kind, s.cursor.mark, after.mark⟩

/-! ### Keys -/

/-- Whether a place is too far back to be the beginning of a key. -/
def isStale (s : Scanner) (k : PossibleKey) : Bool :=
  k.mark.line < s.cursor.mark.line || k.mark.index + 1024 < s.cursor.mark.index

/-- Forgets the places that are too far back; a key that had to begin there is missed. -/
def dropStale (s : Scanner) : Except YamlFault Scanner :=
  let stale := s.keys.filterMap fun k => k.filter s.isStale
  match stale.reverse.find? (·.required) with
  | some k => .error (s.fault .noColon (some (.simpleKey, k.mark)))
  | none => .ok { s with keys := s.keys.map fun k => k.filter (!s.isStale ·) }

/-- Forgets the innermost place; a key that had to begin there is missed. -/
def dropKey (s : Scanner) : Except YamlFault Scanner :=
  match s.keys with
  | some k :: rest =>
    if k.required then .error (s.fault .noColon (some (.simpleKey, k.mark)))
    else .ok { s with keys := none :: rest }
  | _ => .ok s

/-- Notes that a key may begin here. -/
def saveKey (s : Scanner) : Except YamlFault Scanner :=
  if s.keyAllowed then do
    let key : PossibleKey :=
      ⟨s.flow == 0 && s.indent == s.cursor.mark.column, s.taken + s.queue.length, s.cursor.mark⟩
    let s ← s.dropKey
    pure { s with keys := some key :: s.keys.tail }
  else .ok s

/-! ### Indentation -/

/-- Opens a block at a column that lies deeper than the one that is open. -/
def openBlock (s : Scanner) (column : Nat) (number : Option Nat) (kind : TokenKind) (m : Mark) :
    Scanner :=
  if s.flow == 0 && decide (s.indent < column) then
    let s := { s with indents := s.indent :: s.indents, indent := column }
    match number with
    | some n => s.insert n ⟨kind, m, m⟩
    | none => s.push ⟨kind, m, m⟩
  else s

/-- Closes the blocks that are open deeper than a column. -/
def closeBlocks (column : Int) : List Int → Scanner → Scanner
  | [], s => s
  | parent :: rest, s =>
    if column < s.indent then
      closeBlocks column rest
        ({ s with indent := parent, indents := rest }.push
          ⟨.blockEnd, s.cursor.mark, s.cursor.mark⟩)
    else s

/-- Closes blocks unless a bracket is open. -/
def unroll (s : Scanner) (column : Int) : Scanner :=
  if s.flow == 0 then closeBlocks column s.indents s else s

/-! ### Tokens -/

/-- Passes blanks, comments and line ends. A tab is no blank where a key may begin. -/
def passGap : Nat → Scanner → Scanner
  | 0, s => s
  | fuel + 1, s =>
    let c := s.cursor
    let c := if c.mark.index == 0 && c.at? '\ufeff' then c.skip else c
    let tabs := s.flow != 0 || !s.keyAllowed
    let c := (c.span fun x => x == ' ' || (tabs && x == '\t')).2
    let c := if c.at? '#' then c.toLineEnd else c
    if c.peek?.any isBreak then
      passGap fuel
        { s with cursor := c.skipBreak, keyAllowed := s.keyAllowed || s.flow == 0 }
    else { s with cursor := c }

/-- The end of the stream. -/
def fetchEnd (s : Scanner) : Except YamlFault Scanner := do
  let m := s.cursor.mark
  let m := if m.column = 0 then m else m.nextLine 0
  let s := { s with cursor := { s.cursor with mark := m } }
  let s ← (s.unroll (-1)).dropKey
  pure ({ s with keyAllowed := false }.push ⟨.streamEnd, m, m⟩)

/-- A directive. -/
def fetchDirective (s : Scanner) : Except YamlFault Scanner := do
  let s ← (s.unroll (-1)).dropKey
  let (t, c) ← Directive.read s.cursor
  pure ({ s with keyAllowed := false, cursor := c }.push t)

/-- The sign of a document. -/
def fetchDocument (s : Scanner) (kind : TokenKind) : Except YamlFault Scanner := do
  let s ← (s.unroll (-1)).dropKey
  pure ({ s with keyAllowed := false }.pushSign kind 3)

/-- An opening bracket. -/
def fetchOpen (s : Scanner) (kind : TokenKind) : Except YamlFault Scanner := do
  let s ← s.saveKey
  pure ({ s with keys := none :: s.keys, flow := s.flow + 1, keyAllowed := true }.pushSign kind 1)

/-- A closing bracket. -/
def fetchClose (s : Scanner) (kind : TokenKind) : Except YamlFault Scanner := do
  let s ← s.dropKey
  let s := if s.flow = 0 then s else { s with flow := s.flow - 1, keys := s.keys.tail }
  pure ({ s with keyAllowed := false }.pushSign kind 1)

/-- A comma. -/
def fetchFlowEntry (s : Scanner) : Except YamlFault Scanner := do
  let s ← s.dropKey
  pure ({ s with keyAllowed := true }.pushSign .flowEntry 1)

/-- A hyphen before an entry. -/
def fetchBlockEntry (s : Scanner) : Except YamlFault Scanner := do
  if s.flow == 0 && !s.keyAllowed then throw (s.fault .noEntryHere none)
  let s := s.openBlock s.cursor.mark.column none .blockSequenceStart s.cursor.mark
  let s ← s.dropKey
  pure ({ s with keyAllowed := true }.pushSign .blockEntry 1)

/-- A question mark before a key. -/
def fetchKey (s : Scanner) : Except YamlFault Scanner := do
  if s.flow == 0 && !s.keyAllowed then throw (s.fault .noKeyHere none)
  let s := s.openBlock s.cursor.mark.column none .blockMappingStart s.cursor.mark
  let s ← s.dropKey
  pure ({ s with keyAllowed := s.flow == 0 }.pushSign .key 1)

/-- A colon before a value. -/
def fetchValue (s : Scanner) : Except YamlFault Scanner :=
  match s.keys with
  | some k :: rest =>
    let s := s.insert k.number ⟨.key, k.mark, k.mark⟩
    let s := s.openBlock k.mark.column (some k.number) .blockMappingStart k.mark
    .ok ({ s with keys := none :: rest, keyAllowed := false }.pushSign .value 1)
  | _ => do
    if s.flow == 0 && !s.keyAllowed then throw (s.fault .noValueHere none)
    let s := s.openBlock s.cursor.mark.column none .blockMappingStart s.cursor.mark
    pure ({ s with keyAllowed := s.flow == 0 }.pushSign .value 1)

/-- An anchor, an alias or a tag. -/
def fetchProperty (s : Scanner) (read : Cursor → Except YamlFault (Token × Cursor)) :
    Except YamlFault Scanner := do
  let s ← s.saveKey
  let (t, c) ← read s.cursor
  pure ({ s with keyAllowed := false, cursor := c }.push t)

/-- A scalar that has been read. -/
def pushScalar (s : Scanner) (style : ScalarStyle) (read : ScannedScalar × Cursor) : Scanner :=
  { s with cursor := read.2 }.push
    ⟨.scalar (String.ofList read.1.text) style, s.cursor.mark, read.1.stop⟩

/-- A literal or folded scalar. -/
def fetchBlockScalar (s : Scanner) (literal : Bool) : Except YamlFault Scanner := do
  let s ← s.dropKey
  let read ← Block.read literal s.indent s.cursor
  pure ({ s with keyAllowed := true }.pushScalar (if literal then .literal else .folded) read)

/-- A quoted scalar. -/
def fetchQuoted (s : Scanner) (single : Bool) : Except YamlFault Scanner := do
  let s ← s.saveKey
  let read ← Quoted.read single s.cursor
  pure ({ s with keyAllowed := false }.pushScalar
    (if single then .singleQuoted else .doubleQuoted) read)

/-- A plain scalar. -/
def fetchPlain (s : Scanner) : Except YamlFault Scanner := do
  let s ← s.saveKey
  let read ← Plain.read (s.flow != 0) (s.indent + 1) s.cursor
  pure ({ s with keyAllowed := read.1.brokenAfter }.pushScalar .plain read)

/-- Characters that begin no plain scalar, at least not before a blank. -/
def isIndicator (c : Char) : Bool := "-?:,[]\x7b\x7d#&*!|>'\"%@`".toList.contains c

/-- The token that the text goes on with. -/
def fetchToken (s : Scanner) : Except YamlFault Scanner :=
  let c := s.cursor
  match c.rest with
  | [] => s.fetchEnd
  | x :: rest =>
    let flow := s.flow != 0
    if c.mark.column == 0 && x == '%' then s.fetchDirective
    else if c.atDocument '-' then s.fetchDocument .documentStart
    else if c.atDocument '.' then s.fetchDocument .documentEnd
    else if x == '[' then s.fetchOpen .flowSequenceStart
    else if x == '{' then s.fetchOpen .flowMappingStart
    else if x == ']' then s.fetchClose .flowSequenceEnd
    else if x == '}' then s.fetchClose .flowMappingEnd
    else if x == ',' then s.fetchFlowEntry
    else if x == '-' && endsWord rest then s.fetchBlockEntry
    else if x == '?' && (flow || endsWord rest) then s.fetchKey
    else if x == ':' && (flow || endsWord rest) then s.fetchValue
    else if x == '*' then s.fetchProperty (Anchor.read true)
    else if x == '&' then s.fetchProperty (Anchor.read false)
    else if x == '!' then s.fetchProperty (Tag.read flow)
    else if x == '|' && !flow then s.fetchBlockScalar true
    else if x == '>' && !flow then s.fetchBlockScalar false
    else if x == '\'' then s.fetchQuoted true
    else if x == '"' then s.fetchQuoted false
    else if !(isBlank x || isBreak x || isIndicator x) ||
        (x == '-' && !rest.head?.any isBlank) ||
        (!flow && (x == '?' || x == ':') && !endsWord rest) then s.fetchPlain
    else .error (s.fault .noToken (some (.nextToken, c.mark)))

/-- One turn: the beginning of the stream, or the next token of the text. -/
def fetch (s : Scanner) : Except YamlFault Scanner :=
  if s.begun then do
    let s ← (passGap (s.cursor.rest.length + 1) s).dropStale
    (s.unroll s.cursor.mark.column).fetchToken
  else
    .ok ({ s with begun := true, keyAllowed := true, keys := [none] }.push
      ⟨.streamStart, s.cursor.mark, s.cursor.mark⟩)

/-- Whether the first token that is kept back may yet turn out to be the beginning of a key. -/
def undecided (s : Scanner) : Bool :=
  s.keys.any fun k => k.any (·.number == s.taken)

end Scanner

/-- The tokens of a text up to its end, or up to the place where it cannot be read on. -/
structure TokenStream where
  /-- The tokens. -/
  tokens : List Token
  /-- Why there are no more, unless the last one is the end. -/
  fault : Option YamlFault
  deriving Repr

namespace TokenStream

/-- A token before others. -/
def cons (t : Token) (s : TokenStream) : TokenStream := { s with tokens := t :: s.tokens }

/-- Hands out tokens until the end is met. -/
def collect : Nat → Scanner → TokenStream
  | 0, _ => ⟨[], none⟩
  | fuel + 1, s =>
    match s.queue with
    | [] =>
      match s.fetch with
      | .error fault => ⟨[], some fault⟩
      | .ok s => collect fuel s
    | t :: queue =>
      match s.dropStale with
      | .error fault => ⟨[], some fault⟩
      | .ok s =>
        if s.undecided then
          match s.fetch with
          | .error fault => ⟨[], some fault⟩
          | .ok s => collect fuel s
        else if t.kind = .streamEnd then ⟨[t], none⟩
        else (collect fuel { s with queue := queue, taken := s.taken + 1 }).cons t

/-- Characters that a text may hold. -/
def isAllowed (c : Char) : Bool :=
  let n := c.toNat
  n == 9 || n == 10 || n == 13 || (0x20 ≤ n && n ≤ 0x7E) || n == 0x85 ||
    (0xA0 ≤ n && n != 0xFFFE && n != 0xFFFF)

/-- The tokens of a text. A text with a character that none may hold has no token at all. -/
def ofText (text : String) : TokenStream :=
  let cs := text.toList
  let allowed := cs.takeWhile isAllowed
  if allowed.length = cs.length then
    collect (8 * cs.length + 16) { cursor := ⟨cs, {}⟩ }
  else
    let offset := (String.ofList allowed).utf8ByteSize
    ⟨[], some ⟨.controlCharacter, {}, offset, none⟩⟩

end TokenStream

end Yaml

end Carrier
