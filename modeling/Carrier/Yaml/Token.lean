import Carrier.Yaml.Scalar

/-!
# Tokens of a YAML text

- `TokenKind`, `Token`: the tokens, each with the place where it begins and ends.
- `Directive.read`, `Anchor.read`, `Tag.read`: the tokens that are neither signs nor scalars.
-/

namespace Carrier

namespace Yaml

/-- The kinds of tokens. -/
inductive TokenKind where
  | streamStart
  | streamEnd
  | versionDirective (major minor : Nat)
  | tagDirective (handle text : String)
  | documentStart
  | documentEnd
  | blockSequenceStart
  | blockMappingStart
  | blockEnd
  | flowSequenceStart
  | flowSequenceEnd
  | flowMappingStart
  | flowMappingEnd
  | blockEntry
  | flowEntry
  | key
  | value
  | alias (name : String)
  | anchor (name : String)
  | tag (handle suffix : String)
  | scalar (text : String) (style : ScalarStyle)
  deriving DecidableEq, Repr

/-- A token. -/
structure Token where
  /-- Its kind. -/
  kind : TokenKind
  /-- Where it begins. -/
  start : Mark
  /-- Where it ends. -/
  stop : Mark
  deriving DecidableEq, Repr

/-! ### Anchors and aliases -/

namespace Anchor

/-- Characters that may follow the name of an anchor. -/
def mayFollow (rest : List Char) : Bool :=
  endsWord rest || rest.head?.any ("?:,]\x7d%@`".toList.contains ·)

/-- Reads an anchor or an alias, from its sign on. -/
def read (isAlias : Bool) (c : Cursor) : Except YamlFault (Token × Cursor) :=
  let (name, after) := c.skip.span isWord
  if name.isEmpty || !mayFollow after.rest then
    .error ⟨.noAnchorName, after.mark, 0, some (if isAlias then .alias else .anchor, c.mark)⟩
  else
    let name := String.ofList name
    .ok (⟨if isAlias then .alias name else .anchor name, c.mark, after.mark⟩, after)

end Anchor

/-! ### Tags -/

namespace Tag

/-- Characters of a tag; those of lists may stand only where `wide` is set. -/
def inUri (wide : Bool) (c : Char) : Bool :=
  isWord c || ";/?:@&=+$.%!~*'()".toList.contains c || (wide && ",[]".toList.contains c)

/-- The octet that three characters `%XX` stand for. -/
def octet? : List Char → Option (Nat × List Char)
  | '%' :: h :: l :: rest =>
    match Text.hexValue? h, Text.hexValue? l with
    | some a, some b => some (a * 16 + b, rest)
    | _, _ => none
  | _ => none

/-- How many octets the character has that begins with one. -/
def width? (octet : Nat) : Option Nat :=
  if octet < 0x80 then some 1
  else if 0xC0 ≤ octet ∧ octet < 0xE0 then some 2
  else if 0xE0 ≤ octet ∧ octet < 0xF0 then some 3
  else if 0xF0 ≤ octet ∧ octet < 0xF8 then some 4
  else none

/-- Reads the later octets of an escaped character. -/
def laterOctets (within : Bool) (start : Mark) :
    Nat → List Char → Cursor → Except YamlFault (List Char × Cursor)
  | 0, text, c => .ok (text, c)
  | left + 1, text, c =>
    let fault (p : Problem) : YamlFault := ⟨p, c.mark, 0, some (.tagUri within, start)⟩
    match octet? c.rest with
    | none => .error (fault .noEscapedOctet)
    | some (n, rest) =>
      if n / 64 = 2 then
        laterOctets within start left (Char.ofNat n :: text) ⟨rest, c.mark.plus 3⟩
      else .error (fault .badLaterOctet)

/-- Reads one escaped character; its octets are kept one by one. -/
def escaped (within : Bool) (start : Mark) (text : List Char) (c : Cursor) :
    Except YamlFault (List Char × Cursor) :=
  let fault (p : Problem) : YamlFault := ⟨p, c.mark, 0, some (.tagUri within, start)⟩
  match octet? c.rest with
  | none => .error (fault .noEscapedOctet)
  | some (n, rest) =>
    match width? n with
    | none => .error (fault .badFirstOctet)
    | some width =>
      laterOctets within start (width - 1) (Char.ofNat n :: text) ⟨rest, c.mark.plus 3⟩

/-- Reads the characters of a tag; `text` holds those read before, in reverse. -/
def chars (wide within : Bool) (start : Mark) :
    Nat → List Char → Cursor → Except YamlFault (List Char × Cursor)
  | 0, text, c => .ok (text.reverse, c)
  | fuel + 1, text, c =>
    match c.rest with
    | [] => .ok (text.reverse, c)
    | x :: _ =>
      if !inUri wide x then .ok (text.reverse, c)
      else if x == '%' then
        match escaped within start text c with
        | .error fault => .error fault
        | .ok (text, c) => chars wide within start fuel text c
      else chars wide within start fuel (x :: text) c.skip

/-- Reads a tag after a part of it, which has an exclamation mark that is left out. A tag that
has no character at all is refused. -/
def uri (wide within : Bool) (start : Mark) (front : List Char) (c : Cursor) :
    Except YamlFault (String × Cursor) := do
  let (text, after) ← chars wide within start (c.rest.length + 1) front.tail.reverse c
  if front.isEmpty && after.rest.length == c.rest.length then
    throw ⟨.noTagUri, after.mark, 0, some (.tagUri within, start)⟩
  pure (String.ofList text, after)

/-- Reads a handle: two exclamation marks with a name between them. In a tag the second one may
be missing, and in a directive the handle may be one exclamation mark. -/
def handle (within : Bool) (start : Mark) (c : Cursor) :
    Except YamlFault (List Char × Cursor) :=
  if !c.at? '!' then
    .error ⟨.noTagMark, c.mark, 0, some (.tagHandle within, start)⟩
  else
    let (name, after) := c.skip.span isWord
    if after.at? '!' then .ok ('!' :: name ++ ['!'], after.skip)
    else if within && !name.isEmpty then
      .error ⟨.noTagMark, after.mark, 0, some (.directiveHandle, start)⟩
    else .ok ('!' :: name, after)

/-- Handle and suffix of a tag, from its exclamation mark on. -/
def parts (c : Cursor) : Except YamlFault (String × String × Cursor) := do
  let start := c.mark
  if c.rest.tail.head? = some '<' then
    let (suffix, c) ← uri true false start [] c.skip.skip
    if c.at? '>' then pure ("", suffix, c.skip)
    else throw ⟨.noTagEnd, c.mark, 0, some (.tag, start)⟩
  else
    let (front, c) ← handle false start c
    if 2 ≤ front.length ∧ front.getLast? = some '!' then
      let (suffix, c) ← uri false false start [] c
      pure (String.ofList front, suffix, c)
    else
      let (suffix, c) ← uri false false start front c
      if suffix.isEmpty then pure ("", "!", c) else pure ("!", suffix, c)

/-- Reads a tag, from its exclamation mark on. -/
def read (flow : Bool) (c : Cursor) : Except YamlFault (Token × Cursor) := do
  let (handle, suffix, after) ← parts c
  if endsWord after.rest || (flow && after.at? ',') then
    pure (⟨.tag handle suffix, c.mark, after.mark⟩, after)
  else throw ⟨.noBlankOrBreak, after.mark, 0, some (.tag, c.mark)⟩

end Tag

/-! ### Directives -/

namespace Directive

/-- Reads a number of a version. -/
def number (start : Mark) (c : Cursor) : Except YamlFault (Nat × Cursor) :=
  let (digits, after) := c.span fun x => (Text.digitValue? x).isSome
  let fault (p : Problem) (m : Mark) : YamlFault :=
    ⟨p, m, 0, some (.versionDirective, start)⟩
  if 9 < digits.length then .error (fault .longVersion (c.mark.plus 9))
  else if digits.isEmpty then .error (fault .noVersion c.mark)
  else .ok ((Text.readDigits? 10 0 digits).getD 0, after)

/-- Reads a version after the name of its directive. -/
def version (start : Mark) (c : Cursor) : Except YamlFault (TokenKind × Cursor) := do
  let (major, c) ← number start c.skipBlanks
  if !c.at? '.' then throw ⟨.noVersionPoint, c.mark, 0, some (.versionDirective, start)⟩
  let (minor, c) ← number start c.skip
  pure (.versionDirective major minor, c)

/-- Reads a handle and what it stands for after the name of their directive. -/
def tagText (start : Mark) (c : Cursor) : Except YamlFault (TokenKind × Cursor) := do
  let (handle, c) ← Tag.handle true start c.skipBlanks
  if !c.peek?.any isBlank then throw ⟨.noBlank, c.mark, 0, some (.tagDirective, start)⟩
  let (text, c) ← Tag.uri true true start [] c.skipBlanks
  if !endsWord c.rest then throw ⟨.noBlankOrBreak, c.mark, 0, some (.tagDirective, start)⟩
  pure (.tagDirective (String.ofList handle) text, c)

/-- Reads a directive, from its percent sign on. -/
def read (c : Cursor) : Except YamlFault (Token × Cursor) := do
  let start := c.mark
  let fault (p : Problem) (m : Mark) : YamlFault := ⟨p, m, 0, some (.directive, start)⟩
  let (name, c) := c.skip.span isWord
  if name.isEmpty then throw (fault .noDirectiveName c.mark)
  if !endsWord c.rest then throw (fault .badDirectiveName c.mark)
  let (kind, c) ←
    if name = "YAML".toList then version start c
    else if name = "TAG".toList then tagText start c
    else throw (fault .unknownDirective c.mark)
  match c.afterComment? with
  | .ok after => pure (⟨kind, start, c.mark⟩, after)
  | .error m => throw (fault .noCommentOrBreak m)

end Directive

end Yaml

end Carrier
