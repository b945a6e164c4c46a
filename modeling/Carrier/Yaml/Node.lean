import Carrier.Yaml.Event

/-!
# The tree of a YAML document

- `Node`: scalars, sequences and mappings, aliases, and the place where a text breaks off.
- `Document`: the tree of the first document of a text, and what is wrong with the text.
- `Document.ofEvents`: the document of a stream of events.

An anchor has a number, namely how many names have been seen before it. A name that is given again
has a new number, but adds none to the names, so that a later name may have that number too; the
last node of a number is the one that aliases of this number stand for.

This is how `serde_yaml` loads a document.
-/

namespace Carrier

namespace Yaml

/-- A node of a document. -/
inductive Node where
  /-- The text breaks off. -/
  | missing
  /-- An alias of the anchor of a number. -/
  | alias (mark : Mark) (anchor : Nat)
  /-- A scalar. -/
  | scalar (mark : Mark) (anchor : Option Nat) (tag : Option String) (text : String)
    (style : ScalarStyle)
  /-- A sequence; where the text breaks off in it, its last item is missing. -/
  | sequence (mark : Mark) (anchor : Option Nat) (items : List Node)
  /-- A mapping; where the text breaks off in it, the last value is missing, or the last entry
  altogether. -/
  | mapping (mark : Mark) (anchor : Option Nat) (entries : List (Node × Node))
  deriving Inhabited

namespace Node

mutual

/-- The nodes that have anchors, in the order in which they begin. -/
def anchored : Node → List (Nat × Node)
  | .missing | .alias .. => []
  | .scalar mark (some anchor) tag text style =>
    [(anchor, .scalar mark (some anchor) tag text style)]
  | .scalar _ none _ _ _ => []
  | .sequence mark anchor items =>
    (anchor.map fun n => (n, .sequence mark anchor items)).toList ++ anchoredItems items
  | .mapping mark anchor entries =>
    (anchor.map fun n => (n, .mapping mark anchor entries)).toList ++ anchoredEntries entries

/-- The nodes of a list that have anchors. -/
def anchoredItems : List Node → List (Nat × Node)
  | [] => []
  | n :: rest => anchored n ++ anchoredItems rest

/-- The nodes among keys and values that have anchors. -/
def anchoredEntries : List (Node × Node) → List (Nat × Node)
  | [] => []
  | (k, v) :: rest => anchored k ++ anchored v ++ anchoredEntries rest

end

mutual

/-- Whether the text does not break off in a node. -/
def isWhole : Node → Bool
  | .missing => false
  | .alias .. | .scalar .. => true
  | .sequence _ _ items => allWhole items
  | .mapping _ _ entries => allEntriesWhole entries

/-- Whether the text does not break off in any node of a list. -/
def allWhole : List Node → Bool
  | [] => true
  | n :: rest => isWhole n && allWhole rest

/-- Whether the text does not break off in any key or value. -/
def allEntriesWhole : List (Node × Node) → Bool
  | [] => true
  | (k, v) :: rest => isWhole k && isWhole v && allEntriesWhole rest

end

end Node

/-! ### From events to nodes -/

/-- A sequence or a mapping that is open. -/
inductive OpenNode where
  /-- A sequence with the items that have been read, in reverse. -/
  | sequence (mark : Mark) (anchor : Option Nat) (items : List Node)
  /-- A mapping with the entries that have been read, in reverse, and the key of the next. -/
  | mapping (mark : Mark) (anchor : Option Nat) (entries : List (Node × Node))
    (key : Option Node)

namespace OpenNode

/-- An open node with one more node in it. -/
def add : OpenNode → Node → OpenNode
  | .sequence mark anchor items, n => .sequence mark anchor (n :: items)
  | .mapping mark anchor entries none, n => .mapping mark anchor entries (some n)
  | .mapping mark anchor entries (some k), n => .mapping mark anchor ((k, n) :: entries) none

/-- The node that an open one becomes. -/
def close : OpenNode → Node
  | .sequence mark anchor items => .sequence mark anchor items.reverse
  | .mapping mark anchor entries none => .mapping mark anchor entries.reverse
  | .mapping mark anchor entries (some k) =>
    .mapping mark anchor ((k, .missing) :: entries).reverse

/-- The node in which all open ones are, if the text breaks off here. -/
def breakOff (stack : List OpenNode) : Node :=
  stack.foldl (fun n o => (o.add n).close) .missing

end OpenNode

/-- What is wrong with a document beyond its tree. -/
inductive DocumentFault where
  /-- The text cannot be read on. -/
  | unreadable (fault : YamlFault)
  /-- An alias has a name that no anchor before it has. -/
  | unknownAnchor (mark : Mark)
  deriving DecidableEq, Repr

/-- The names of the anchors that have been seen, and the last number of each. -/
abbrev AnchorNames := List (String × Nat)

/-- The number of a new anchor, and the names with it. -/
def AnchorNames.add (names : AnchorNames) : Option String → Option Nat × AnchorNames
  | none => (none, names)
  | some name =>
    let number := names.length
    (some number, (name, number) :: names.filter (·.1 ≠ name))

/-- What has been read of a document: the names of anchors, and what is open, the innermost
first. -/
structure TreeReader where
  /-- The names of anchors. -/
  names : AnchorNames := []
  /-- What is open. -/
  stack : List OpenNode := []

namespace TreeReader

/-- The tree of the events of a document, and the mark of an alias that is unknown. -/
def read (r : TreeReader) : List Event → Node × Option Mark
  | [] => (OpenNode.breakOff r.stack, none)
  | e :: events =>
    let give (names : AnchorNames) (n : Node) (stack : List OpenNode) : Node × Option Mark :=
      match stack with
      | [] => (n, none)
      | o :: stack => read ⟨names, o.add n :: stack⟩ events
    match e.kind with
    | .alias name =>
      match r.names.lookup name with
      | some anchor => give r.names (.alias e.mark anchor) r.stack
      | none => (OpenNode.breakOff r.stack, some e.mark)
    | .scalar properties text style =>
      let (anchor, names) := r.names.add properties.anchor
      give names (.scalar e.mark anchor properties.tag text style) r.stack
    | .sequenceStart properties =>
      let (anchor, names) := r.names.add properties.anchor
      read ⟨names, .sequence e.mark anchor [] :: r.stack⟩ events
    | .mappingStart properties =>
      let (anchor, names) := r.names.add properties.anchor
      read ⟨names, .mapping e.mark anchor [] none :: r.stack⟩ events
    | .sequenceEnd | .mappingEnd =>
      match r.stack with
      | [] => (.missing, none)
      | o :: stack => give r.names o.close stack
    | .streamStart | .streamEnd | .documentStart | .documentEnd => read r events

end TreeReader

/-- The first document of a text. -/
structure Document where
  /-- Its tree. -/
  root : Node
  /-- What is wrong with it, if it breaks off. -/
  fault : Option DocumentFault
  /-- Whether something follows it. -/
  followed : Bool
  /-- How many events it has. -/
  size : Nat

namespace Document

/-- Whether an event is one of a node. -/
def isNodeEvent (e : Event) : Bool :=
  match e.kind with
  | .streamStart | .streamEnd | .documentStart | .documentEnd => false
  | _ => true

/-- The document of a stream of events. A stream without any has an empty scalar. -/
def ofEvents (s : EventStream) : Document :=
  let events := s.events.dropWhile (·.kind = .streamStart)
  match events, s.fault with
  | [⟨.streamEnd, mark⟩], _ => ⟨.scalar mark none none "" .plain, none, false, 1⟩
  | _, fault =>
    let nodes := (events.takeWhile (·.kind ≠ .documentEnd)).filter isNodeEvent
    let after := (events.dropWhile (·.kind ≠ .documentEnd)).tail
    let ended := events.any (·.kind = .documentEnd)
    let (root, unknown) := TreeReader.read {} nodes
    match unknown with
    | some mark => ⟨root, some (.unknownAnchor mark), false, nodes.length⟩
    | none =>
      let fault := if ended then none else fault.map .unreadable
      ⟨root, fault, ended && after.head?.map (·.kind) ≠ some .streamEnd, nodes.length⟩

/-- The document of a text. -/
def ofText (text : String) : Document := ofEvents (EventStream.ofText text)

end Document

end Yaml

end Carrier
