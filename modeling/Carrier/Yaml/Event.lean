import Carrier.Yaml.TokenStream

/-!
# The events of a YAML text

- `EventKind`, `Event`: scalars, aliases, and the beginnings and ends of all that holds others.
- `EventReader`: what is expected next, and in what.
- `EventReader.next`: the next event.
- `EventStream.ofTokens`: all events up to the end or to a fault.

A scalar that is left out is an empty plain scalar at the place where it would stand.

This is the parser behind `serde_yaml`.
-/

namespace Carrier

namespace Yaml

/-- Anchor and tag of a node. -/
structure Properties where
  /-- The name by which aliases refer to it. -/
  anchor : Option String := none
  /-- What kind of value it is said to be. -/
  tag : Option String := none
  deriving DecidableEq, Repr

/-- The kinds of events. -/
inductive EventKind where
  | streamStart
  | streamEnd
  | documentStart
  | documentEnd
  | alias (name : String)
  | scalar (properties : Properties) (text : String) (style : ScalarStyle)
  | sequenceStart (properties : Properties)
  | sequenceEnd
  | mappingStart (properties : Properties)
  | mappingEnd
  deriving DecidableEq, Repr

/-- An event, and where it begins. -/
structure Event where
  /-- Its kind. -/
  kind : EventKind
  /-- Where it begins. -/
  mark : Mark
  deriving DecidableEq, Repr

/-- What is expected next. -/
inductive Expectation where
  | stream
  | firstDocument
  | document
  | documentContent
  | documentEnd
  | blockNode
  | firstBlockEntry
  | blockEntry
  | indentlessEntry
  | firstBlockKey
  | blockKey
  | blockValue
  | firstFlowEntry
  | flowEntry
  | pairKey
  | pairValue
  | pairEnd
  | firstFlowKey
  | flowKey
  | flowValue
  | emptyFlowValue
  | nothing
  deriving DecidableEq, Repr

/-- What is known while events are read. -/
structure EventReader where
  /-- The tokens that are left. -/
  tokens : List Token
  /-- Why there are no more, unless the last one is the end. -/
  fault : Option YamlFault
  /-- What is expected next. -/
  state : Expectation := .stream
  /-- What is expected after what is open, the innermost first. -/
  states : List Expectation := []
  /-- Where that which is open began, the innermost first. -/
  marks : List Mark := []
  /-- What the handles of tags stand for. -/
  handles : List (String × String) := []
  deriving Repr

/-- A result of reading events. -/
abbrev Reading (α : Type) := Except YamlFault α

namespace EventReader

/-- The next token; without one the fault of the tokens is met. -/
def peek (r : EventReader) : Reading Token :=
  match r.tokens with
  | t :: _ => .ok t
  | [] => .error (r.fault.getD ⟨.noContent, {}, 0, none⟩)

/-- The reader after the next token. -/
def skip (r : EventReader) : EventReader := { r with tokens := r.tokens.tail }

/-- The reader after what is open. -/
def pop (r : EventReader) : EventReader :=
  { r with state := r.states.headD .nothing, states := r.states.tail }

/-- The reader that will go on with a state. -/
def push (r : EventReader) (state : Expectation) : EventReader :=
  { r with states := state :: r.states }

/-- The reader in a state. -/
def within (r : EventReader) (state : Expectation) : EventReader := { r with state := state }

/-- A fault at a token, in what began at a place. -/
def unexpected (p : Problem) (t : Token) (context : Context) (since : Mark) : YamlFault :=
  ⟨p, t.start, 0, some (context, since)⟩

/-- A scalar that is left out. -/
def emptyScalar (m : Mark) : Event := ⟨.scalar {} "" .plain, m⟩

/-! ### Documents -/

/-- The directives before a document: the reader after them, and the version that was named. -/
def directives : Nat → Bool → EventReader → Reading EventReader
  | 0, _, r => .ok r
  | fuel + 1, versioned, r => do
    let t ← r.peek
    match t.kind with
    | .versionDirective major minor =>
      if versioned then throw ⟨.duplicateVersion, t.start, 0, none⟩
      if major ≠ 1 ∨ (minor ≠ 1 ∧ minor ≠ 2) then
        throw ⟨.incompatibleVersion, t.start, 0, none⟩
      directives fuel true r.skip
    | .tagDirective handle text =>
      if (r.handles.lookup handle).isSome then
        throw ⟨.duplicateHandle, t.start, 0, none⟩
      directives fuel versioned { r.skip with handles := (handle, text) :: r.handles }
    | _ => pure r

/-- The handles that stand for something in every document, unless it says otherwise. -/
def withUsualHandles (r : EventReader) : EventReader :=
  { r with handles := r.handles ++ [("!", "!"), ("!!", "tag:yaml.org,2002:")] }

/-- Passes signs of the end of a document. -/
def skipDocumentEnds (r : EventReader) : EventReader :=
  { r with tokens := r.tokens.dropWhile (·.kind = .documentEnd) }

/-- The beginning of a document or the end of the stream. -/
def documentStart (r : EventReader) (implicit : Bool) : Reading (Event × EventReader) := do
  let r := if implicit then r else r.skipDocumentEnds
  let t ← r.peek
  match t.kind with
  | .streamEnd => pure (⟨.streamEnd, t.start⟩, r.skip.within .nothing)
  | .versionDirective .. | .tagDirective .. | .documentStart => explicit r t
  | _ =>
    if implicit then
      pure (⟨.documentStart, t.start⟩,
        ({ r with handles := [] }.withUsualHandles.push .documentEnd).within .blockNode)
    else explicit r t
where
  /-- A document that begins with its sign. -/
  explicit (r : EventReader) (first : Token) : Reading (Event × EventReader) := do
    let r ← directives (r.tokens.length + 1) false { r with handles := [] }
    let t ← r.peek
    if t.kind ≠ .documentStart then throw ⟨.noDocumentStart, t.start, 0, none⟩
    pure (⟨.documentStart, first.start⟩,
      (r.withUsualHandles.push .documentEnd).skip.within .documentContent)

/-- The end of a document. -/
def documentEnd (r : EventReader) : Reading (Event × EventReader) := do
  let t ← r.peek
  let r := if t.kind = .documentEnd then r.skip else r
  pure (⟨.documentEnd, t.start⟩, { r with handles := [] }.within .document)

/-! ### Nodes -/

/-- The properties of a node, where they begin, and the reader after them. -/
structure NodeHead where
  /-- Anchor and tag. -/
  properties : Properties
  /-- Whether there are any. -/
  any : Bool
  /-- Where the node begins. -/
  start : Mark
  /-- The reader after the properties. -/
  reader : EventReader

/-- The tag that a handle and a suffix stand for. -/
def resolveTag (r : EventReader) (start tagStart : Mark) (handle suffix : String) :
    Reading String :=
  if handle.isEmpty then .ok suffix
  else
    match r.handles.lookup handle with
    | some text => .ok (text ++ suffix)
    | none => .error ⟨.undefinedHandle, tagStart, 0, some (.node, start)⟩

/-- Reads an anchor and a tag, in either order, each of which may be missing. -/
def head (r : EventReader) : Reading NodeHead := do
  let t ← r.peek
  match t.kind with
  | .anchor name =>
    let r := r.skip
    let u ← r.peek
    match u.kind with
    | .tag handle suffix =>
      let r := r.skip
      let _ ← r.peek
      let tag ← r.resolveTag t.start u.start handle suffix
      pure ⟨⟨some name, some tag⟩, true, t.start, r⟩
    | _ => pure ⟨⟨some name, none⟩, true, t.start, r⟩
  | .tag handle suffix =>
    let r := r.skip
    let u ← r.peek
    match u.kind with
    | .anchor name =>
      let r := r.skip
      let _ ← r.peek
      let tag ← r.resolveTag t.start t.start handle suffix
      pure ⟨⟨some name, some tag⟩, true, t.start, r⟩
    | _ =>
      let tag ← r.resolveTag t.start t.start handle suffix
      pure ⟨⟨none, some tag⟩, true, t.start, r⟩
  | _ => pure ⟨{}, false, t.start, r⟩

/-- A node. In a block it may be a block, and after a key a list that is not indented. -/
def node (r : EventReader) (block indentless : Bool) : Reading (Event × EventReader) := do
  let first ← r.peek
  match first.kind with
  | .alias name => pure (⟨.alias name, first.start⟩, r.pop.skip)
  | _ =>
    let h ← r.head
    let r := h.reader
    let t ← r.peek
    match t.kind with
    | .scalar text style =>
      pure (⟨.scalar h.properties text style, h.start⟩, r.pop.skip)
    | .flowSequenceStart =>
      pure (⟨.sequenceStart h.properties, h.start⟩, r.within .firstFlowEntry)
    | .flowMappingStart =>
      pure (⟨.mappingStart h.properties, h.start⟩, r.within .firstFlowKey)
    | kind =>
      if indentless && kind = .blockEntry then
        pure (⟨.sequenceStart h.properties, h.start⟩, r.within .indentlessEntry)
      else if block && kind = .blockSequenceStart then
        pure (⟨.sequenceStart h.properties, h.start⟩, r.within .firstBlockEntry)
      else if block && kind = .blockMappingStart then
        pure (⟨.mappingStart h.properties, h.start⟩, r.within .firstBlockKey)
      else if h.any then
        pure (⟨.scalar h.properties "" .plain, h.start⟩, r.pop)
      else throw (unexpected .noContent t (if block then .blockNode else .flowNode) h.start)

/-- The content of a document, which may be missing. -/
def documentContent (r : EventReader) : Reading (Event × EventReader) := do
  let t ← r.peek
  match t.kind with
  | .versionDirective .. | .tagDirective .. | .documentStart | .documentEnd | .streamEnd =>
    pure (emptyScalar t.start, r.pop)
  | _ => r.node true false

/-! ### Blocks -/

/-- Notes where that began which is opened by the next token. -/
def opening (r : EventReader) : Reading EventReader := do
  let t ← r.peek
  pure { r.skip with marks := t.start :: r.marks }

/-- The end of what is open. -/
def closing (r : EventReader) (kind : EventKind) (t : Token) : Event × EventReader :=
  (⟨kind, t.start⟩, { r.pop with marks := r.marks.tail })

/-- Where that began which is open. -/
def since (r : EventReader) : Mark := r.marks.headD {}

/-- An entry of a list in a block. -/
def blockEntry (r : EventReader) : Reading (Event × EventReader) := do
  let t ← r.peek
  match t.kind with
  | .blockEntry =>
    let r := r.skip
    let u ← r.peek
    if u.kind = .blockEntry ∨ u.kind = .blockEnd then
      pure (emptyScalar t.stop, r.within .blockEntry)
    else (r.push .blockEntry).node true false
  | .blockEnd =>
    let (e, r) := r.closing .sequenceEnd t
    pure (e, r.skip)
  | _ => throw (unexpected .noDash t .blockCollection r.since)

/-- An entry of a list that is not indented. -/
def indentlessEntry (r : EventReader) : Reading (Event × EventReader) := do
  let t ← r.peek
  if t.kind = .blockEntry then
    let r := r.skip
    let u ← r.peek
    if u.kind = .blockEntry ∨ u.kind = .key ∨ u.kind = .value ∨ u.kind = .blockEnd then
      pure (emptyScalar t.stop, r.within .indentlessEntry)
    else (r.push .indentlessEntry).node true false
  else pure (⟨.sequenceEnd, t.start⟩, r.pop)

/-- What follows a key's or a value's sign in a block: a node, or nothing. -/
def blockPart (r : EventReader) (t : Token) (next : Expectation) :
    Reading (Event × EventReader) := do
  let r := r.skip
  let u ← r.peek
  if u.kind = .key ∨ u.kind = .value ∨ u.kind = .blockEnd then
    pure (emptyScalar t.stop, r.within next)
  else (r.push next).node true true

/-- A key in a block. -/
def blockKey (r : EventReader) : Reading (Event × EventReader) := do
  let t ← r.peek
  match t.kind with
  | .key => r.blockPart t .blockValue
  | .blockEnd =>
    let (e, r) := r.closing .mappingEnd t
    pure (e, r.skip)
  | _ => throw (unexpected .noKey t .blockMapping r.since)

/-- A value in a block. -/
def blockValue (r : EventReader) : Reading (Event × EventReader) := do
  let t ← r.peek
  if t.kind = .value then r.blockPart t .blockKey
  else pure (emptyScalar t.start, r.within .blockKey)

/-! ### Brackets -/

/-- An entry of a list in brackets; a key within makes it a mapping of one pair. -/
def flowEntry (r : EventReader) (first : Bool) : Reading (Event × EventReader) := do
  let t ← r.peek
  let finish (r : EventReader) (t : Token) : Event × EventReader :=
    let (e, r) := r.closing .sequenceEnd t
    (e, r.skip)
  if t.kind = .flowSequenceEnd then pure (finish r t)
  else
    if !first && t.kind ≠ .flowEntry then
      throw (unexpected .noSequenceEnd t .flowSequence r.since)
    let r := if first then r else r.skip
    let t ← r.peek
    if t.kind = .key then pure (⟨.mappingStart {}, t.start⟩, r.skip.within .pairKey)
    else if t.kind = .flowSequenceEnd then pure (finish r t)
    else (r.push .flowEntry).node false false

/-- The key of a pair in a list. -/
def pairKey (r : EventReader) : Reading (Event × EventReader) := do
  let t ← r.peek
  if t.kind = .value ∨ t.kind = .flowEntry ∨ t.kind = .flowSequenceEnd then
    pure (emptyScalar t.stop, r.skip.within .pairValue)
  else (r.push .pairValue).node false false

/-- The value of a pair in a list. -/
def pairValue (r : EventReader) : Reading (Event × EventReader) := do
  let t ← r.peek
  if t.kind = .value then
    let r := r.skip
    let u ← r.peek
    if u.kind = .flowEntry ∨ u.kind = .flowSequenceEnd then
      pure (emptyScalar u.start, r.within .pairEnd)
    else (r.push .pairEnd).node false false
  else pure (emptyScalar t.start, r.within .pairEnd)

/-- The end of a pair in a list. -/
def pairEnd (r : EventReader) : Reading (Event × EventReader) := do
  let t ← r.peek
  pure (⟨.mappingEnd, t.start⟩, r.within .flowEntry)

/-- A key in brackets, whose sign may be missing. -/
def flowKey (r : EventReader) (first : Bool) : Reading (Event × EventReader) := do
  let t ← r.peek
  let finish (r : EventReader) (t : Token) : Event × EventReader :=
    let (e, r) := r.closing .mappingEnd t
    (e, r.skip)
  if t.kind = .flowMappingEnd then pure (finish r t)
  else
    if !first && t.kind ≠ .flowEntry then
      throw (unexpected .noMappingEnd t .flowMapping r.since)
    let r := if first then r else r.skip
    let t ← r.peek
    if t.kind = .key then
      let r := r.skip
      let u ← r.peek
      if u.kind = .value ∨ u.kind = .flowEntry ∨ u.kind = .flowMappingEnd then
        pure (emptyScalar u.start, r.within .flowValue)
      else (r.push .flowValue).node false false
    else if t.kind = .flowMappingEnd then pure (finish r t)
    else (r.push .emptyFlowValue).node false false

/-- A value in brackets. -/
def flowValue (r : EventReader) : Reading (Event × EventReader) := do
  let t ← r.peek
  if t.kind = .value then
    let r := r.skip
    let u ← r.peek
    if u.kind = .flowEntry ∨ u.kind = .flowMappingEnd then
      pure (emptyScalar u.start, r.within .flowKey)
    else (r.push .flowKey).node false false
  else pure (emptyScalar t.start, r.within .flowKey)

/-- The value of a key in brackets that has none. -/
def emptyFlowValue (r : EventReader) : Reading (Event × EventReader) := do
  let t ← r.peek
  pure (emptyScalar t.start, r.within .flowKey)

/-! ### The stream -/

/-- The next event. -/
def next (r : EventReader) : Reading (Event × EventReader) :=
  match r.state with
  | .stream => do
    let t ← r.peek
    pure (⟨.streamStart, t.start⟩, r.skip.within .firstDocument)
  | .firstDocument => r.documentStart true
  | .document => r.documentStart false
  | .documentContent => r.documentContent
  | .documentEnd => r.documentEnd
  | .blockNode => r.node true false
  | .firstBlockEntry => do (← r.opening).blockEntry
  | .blockEntry => r.blockEntry
  | .indentlessEntry => r.indentlessEntry
  | .firstBlockKey => do (← r.opening).blockKey
  | .blockKey => r.blockKey
  | .blockValue => r.blockValue
  | .firstFlowEntry => do (← r.opening).flowEntry true
  | .flowEntry => r.flowEntry false
  | .pairKey => r.pairKey
  | .pairValue => r.pairValue
  | .pairEnd => r.pairEnd
  | .firstFlowKey => do (← r.opening).flowKey true
  | .flowKey => r.flowKey false
  | .flowValue => r.flowValue
  | .emptyFlowValue => r.emptyFlowValue
  | .nothing => .ok (⟨.streamEnd, {}⟩, r)

end EventReader

/-- The events of a text up to its end, or up to the place where it cannot be read on. -/
structure EventStream where
  /-- The events. -/
  events : List Event
  /-- Why there are no more, unless the last one is the end. -/
  fault : Option YamlFault
  deriving Repr

namespace EventStream

/-- Reads events until the end is met. -/
def collect : Nat → EventReader → EventStream
  | 0, _ => ⟨[], none⟩
  | fuel + 1, r =>
    match r.next with
    | .error fault => ⟨[], some fault⟩
    | .ok (e, r) =>
      if e.kind = .streamEnd then ⟨[e], none⟩
      else
        let rest := collect fuel r
        { rest with events := e :: rest.events }

/-- The events of tokens. A token has at most four. -/
def ofTokens (s : TokenStream) : EventStream :=
  collect (4 * s.tokens.length + 16) { tokens := s.tokens, fault := s.fault }

/-- The events of a text. -/
def ofText (text : String) : EventStream := ofTokens (TokenStream.ofText text)

end EventStream

end Yaml

end Carrier
