import Carrier.Yaml.Decode
import Mathlib.Data.Option.Basic

/-!
# Documents that differ behind a veil

A veil hides the texts of some scalars, namely of those that are the values of some keys. A hidden
scalar may have an anchor, and aliases that stand for it may be the values of those keys, but
nothing else.

- `YamlFault.unplaced`, `DecodeFault.unplaced`: faults without the places that they name.
- `Veil`: what is hidden of a document.
- `Node.Hidden`: two values whose texts are hidden.
- `Node.Alike`, `Document.Alike`: trees and documents that differ behind a veil, and in the places
  of their nodes.
- `Node.isWhole_alike`: where they break off.
-/

namespace Carrier

namespace Yaml

/-! ### Faults without places -/

/-- A fault without the places that it names. -/
def YamlFault.unplaced (f : YamlFault) : YamlFault :=
  { problem := f.problem, context := f.context.map fun (c, _) => (c, {}) }

/-- A fault of a document without the places that it names. -/
def DocumentFault.unplaced : DocumentFault → DocumentFault
  | .unreadable fault => .unreadable fault.unplaced
  | .unknownAnchor _ => .unknownAnchor {}

namespace DecodeFault

/-- A fault without the places in the text that it names; the path to a node stays. -/
def unplaced : DecodeFault → DecodeFault
  | .document fault => .document fault.unplaced
  | .mismatch what place => .mismatch what (place.map fun (path, _) => (path, {}))
  | .tooManyAliases => .tooManyAliases
  | .followed => .followed

theorem unplaced_locate (path : DecodePath) (mark : Mark) (f : DecodeFault) :
    (f.locate path mark).unplaced = f.unplaced.locate path {} := by
  cases f with
  | mismatch what place => cases place <;> rfl
  | _ => rfl

end DecodeFault

/-! ### Trees -/

/-- The tag of a scalar that is null. -/
def nullTag : String := "tag:yaml.org,2002:null"

/-- What is hidden of a document. -/
structure Veil where
  /-- The keys whose values are hidden. -/
  keys : List String
  /-- The anchors that stand for hidden scalars. -/
  anchors : Nat → Prop
  /-- The texts that may stand for one another. -/
  texts : String → Prop

namespace Veil

variable (v : Veil)

/-- A scalar that is hidden: its text may stand for others, and it does not stand for null. -/
structure Hides (tag : Option String) (text : String) (style : ScalarStyle) : Prop where
  /-- The text may stand for others. -/
  free : v.texts text
  /-- It is neither empty nor a word for null. -/
  notNull : style = .plain → tag = none → text.isEmpty = false ∧ isNull text = false
  /-- Its tag does not say that it is null. -/
  notTagged : style = .plain → tag ≠ some nullTag

end Veil

namespace Node

variable (v : Veil)

/-- Two nodes whose texts are hidden. -/
inductive Hidden : Node → Node → Prop where
  /-- Aliases of one anchor that stands for a hidden scalar. -/
  | reference {mark mark' : Mark} {anchor : Nat} (hidden : v.anchors anchor) :
    Hidden (.alias mark anchor) (.alias mark' anchor)
  /-- Hidden scalars. -/
  | scalar {mark mark' : Mark} {anchor : Option Nat} {tag tag' : Option String}
    {text text' : String} {style style' : ScalarStyle} (left : v.Hides tag text style)
    (right : v.Hides tag' text' style') :
    Hidden (.scalar mark anchor tag text style) (.scalar mark' anchor tag' text' style')

mutual

/-- Two trees that differ in nothing but hidden texts and the places of nodes. -/
inductive Alike : Node → Node → Prop where
  /-- Both texts break off. -/
  | missing : Alike .missing .missing
  /-- Aliases of one anchor that stands for nothing hidden. -/
  | reference {mark mark' : Mark} {anchor : Nat} (shown : ¬ v.anchors anchor) :
    Alike (.alias mark anchor) (.alias mark' anchor)
  /-- One scalar. -/
  | scalar {mark mark' : Mark} {anchor : Option Nat} {tag : Option String} {text : String}
    {style : ScalarStyle} :
    Alike (.scalar mark anchor tag text style) (.scalar mark' anchor tag text style)
  /-- Sequences of such trees. -/
  | sequence {mark mark' : Mark} {anchor : Option Nat} {items items' : List Node}
    (each : ItemsAlike items items') :
    Alike (.sequence mark anchor items) (.sequence mark' anchor items')
  /-- Mappings of such trees. -/
  | mapping {mark mark' : Mark} {anchor : Option Nat} {entries entries' : List (Node × Node)}
    (each : EntriesAlike entries entries') :
    Alike (.mapping mark anchor entries) (.mapping mark' anchor entries')

/-- Items that differ in nothing else, one after the other. -/
inductive ItemsAlike : List Node → List Node → Prop where
  /-- There are none. -/
  | nil : ItemsAlike [] []
  /-- One more of each. -/
  | cons {n n' : Node} {rest rest' : List Node} (first : Alike n n')
    (each : ItemsAlike rest rest') : ItemsAlike (n :: rest) (n' :: rest')

/-- Entries that differ in nothing else, one after the other. -/
inductive EntriesAlike : List (Node × Node) → List (Node × Node) → Prop where
  /-- There are none. -/
  | nil : EntriesAlike [] []
  /-- An entry whose value is not hidden. -/
  | shown {k k' n n' : Node} {rest rest' : List (Node × Node)} (key : Alike k k')
    (value : Alike n n') (each : EntriesAlike rest rest') :
    EntriesAlike ((k, n) :: rest) ((k', n') :: rest')
  /-- An entry whose value is hidden. -/
  | hidden {k k' n n' : Node} {rest rest' : List (Node × Node)} (key : Alike k k')
    (named : ∃ mark anchor tag text style, k = .scalar mark anchor tag text style ∧ text ∈ v.keys)
    (value : Hidden v n n') (each : EntriesAlike rest rest') :
    EntriesAlike ((k, n) :: rest) ((k', n') :: rest')

end

variable {v}

/-! ### Where trees break off -/

theorem Hidden.isWhole_eq {n n' : Node} (h : Hidden v n n') : n.isWhole = n'.isWhole := by
  cases h <;> rfl

mutual

/-- Two such trees break off or do not, both of them. -/
theorem isWhole_alike : ∀ {n n' : Node}, Alike v n n' → n.isWhole = n'.isWhole
  | _, _, .missing => rfl
  | _, _, .reference _ => rfl
  | _, _, .scalar => rfl
  | _, _, .sequence each => by simp only [isWhole, allWhole_alike each]
  | _, _, .mapping each => by simp only [isWhole, allEntriesWhole_alike each]

theorem allWhole_alike : ∀ {ns ns' : List Node}, ItemsAlike v ns ns' → allWhole ns = allWhole ns'
  | _, _, .nil => rfl
  | _, _, .cons first each => by
    simp only [allWhole, isWhole_alike first, allWhole_alike each]

theorem allEntriesWhole_alike : ∀ {es es' : List (Node × Node)}, EntriesAlike v es es' →
    allEntriesWhole es = allEntriesWhole es'
  | _, _, .nil => rfl
  | _, _, .shown key value each => by
    simp only [allEntriesWhole, isWhole_alike key, isWhole_alike value, allEntriesWhole_alike each]
  | _, _, .hidden key _ value each => by
    simp only [allEntriesWhole, isWhole_alike key, value.isWhole_eq, allEntriesWhole_alike each]

end

/-! ### Anchors -/

variable (v) in
/-- The nodes that an anchor stands for, which are hidden where the veil says so. -/
inductive AnchorAlike (anchor : Nat) : Node → Node → Prop where
  /-- The nodes are hidden. -/
  | hidden {n n' : Node} (hidden : v.anchors anchor) (nodes : Hidden v n n') :
    AnchorAlike anchor n n'
  /-- The nodes are not hidden. -/
  | shown {n n' : Node} (shown : ¬ v.anchors anchor) (nodes : Alike v n n') :
    AnchorAlike anchor n n'

end Node

/-- Two values of one key: they are alike, or hidden under one of the veil's keys. -/
def Veil.ValueAlike (v : Veil) (key : String) (n n' : Node) : Prop :=
  Node.Alike v n n' ∨ key ∈ v.keys ∧ Node.Hidden v n n'

theorem Veil.ValueAlike.isWhole_eq {v : Veil} {key : String} {n n' : Node}
    (h : v.ValueAlike key n n') : n.isWhole = n'.isWhole := by
  obtain h | ⟨-, hidden⟩ := h
  · exact Node.isWhole_alike h
  · exact hidden.isWhole_eq

/-! ### Documents -/

/-- Two documents that differ in nothing but hidden texts and places. -/
structure Document.Alike (v : Veil) (d e : Document) : Prop where
  /-- The trees are alike. -/
  root : Node.Alike v d.root e.root
  /-- The last nodes of each anchor are alike, or hidden. -/
  anchors : ∀ anchor, Option.Rel (Node.AnchorAlike v anchor)
    (d.root.anchored.reverse.lookup anchor) (e.root.anchored.reverse.lookup anchor)
  /-- The same is wrong with them. -/
  fault : d.fault.map DocumentFault.unplaced = e.fault.map DocumentFault.unplaced
  /-- Something follows both or neither. -/
  followed : d.followed = e.followed
  /-- They have as many events. -/
  size : d.size = e.size

end Yaml

end Carrier
