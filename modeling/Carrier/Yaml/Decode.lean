import Carrier.Yaml.Node
import Carrier.Yaml.Value

/-!
# Reading values out of a YAML document

- `DecodePath`: the way from the root to a node.
- `DecodeFault`: why a document does not hold what is expected.
- `Decoder`: reading out of a document. Aliases are followed, but only so often.
- `Decoder.text`, `Decoder.unsigned`, `Decoder.list`, `Decoder.optional`, `Decoder.record`: what is
  expected of a node.
- `Document.decode`: the whole document as what is expected.

A document is read from its beginning on, and where its text breaks off, that is the fault, unless
another one was met before.

This is the reading of values in `serde_yaml`.
-/

namespace Carrier

namespace Yaml

/-! ### Faults -/

/-- A step from a node to one in it. -/
inductive PathStep where
  /-- To the item of an index. -/
  | item (index : Nat)
  /-- To the value of a key. -/
  | value (key : String)
  /-- To the value of a key that is no scalar. -/
  | unnamed
  deriving DecidableEq, Repr

/-- The way from the root to a node, the last step first. -/
abbrev DecodePath := List PathStep

/-- How a path is written; a key follows a point unless it is the first. -/
def DecodePath.shown : DecodePath → String
  | [] => ""
  | .item index :: path => shown path ++ "[" ++ toString index ++ "]"
  | .value key :: path => (if path.isEmpty then "" else shown path ++ ".") ++ key
  | .unnamed :: path => (if path.isEmpty then "" else shown path ++ ".") ++ "?"

/-- What is wrong with a node. -/
inductive Mismatch where
  /-- It is something else than what is expected. -/
  | kind (found expected : String)
  /-- Its tag asks for something else than it is. -/
  | tagged (found expected : String)
  /-- A field is not there. -/
  | missingField (name : String)
  /-- A field is there twice. -/
  | duplicateField (name : String)
  deriving DecidableEq, Repr

/-- The wording of a mismatch. -/
def Mismatch.message : Mismatch → String
  | .kind found expected => "invalid type: " ++ found ++ ", expected " ++ expected
  | .tagged found expected =>
    "invalid value: string " ++ Text.Quoted.write found ++ ", expected " ++ expected
  | .missingField name => "missing field `" ++ name ++ "`"
  | .duplicateField name => "duplicate field `" ++ name ++ "`"

/-- Why a document does not hold what is expected. -/
inductive DecodeFault where
  /-- Something is wrong with the document. -/
  | document (fault : DocumentFault)
  /-- A node does not match; the place is known where a node has been named. -/
  | mismatch (what : Mismatch) (place : Option (DecodePath × Mark))
  /-- Aliases have been followed too often. -/
  | tooManyAliases
  /-- Something follows the document. -/
  | followed
  deriving DecidableEq, Repr

namespace DecodeFault

/-- The place in the wording of a fault; the very beginning is not named. -/
def placeText (m : Mark) : String := if m.isOrigin then "" else " at " ++ m.shown

/-- The wording of a fault. -/
def message : DecodeFault → String
  | .document (.unreadable fault) => fault.message
  | .document (.unknownAnchor mark) => "unknown anchor" ++ placeText mark
  | .mismatch what none => what.message
  | .mismatch what (some (path, mark)) =>
    (if path.isEmpty then "" else DecodePath.shown path ++ ": ") ++ what.message ++ placeText mark
  | .tooManyAliases => "repetition limit exceeded"
  | .followed => "deserializing from YAML containing more than one document is not supported"

/-- A fault with a place, if it has none. -/
def locate (path : DecodePath) (mark : Mark) : DecodeFault → DecodeFault
  | .mismatch what none => .mismatch what (some (path, mark))
  | fault => fault

end DecodeFault

/-! ### Decoders -/

/-- What is known of the document that is read. -/
structure Decoding where
  /-- The document. -/
  document : Document
  /-- The nodes that have anchors. -/
  anchored : List (Nat × Node)

/-- Reading out of a document; the state is how many aliases have been followed. -/
abbrev Decoder (α : Type) := ReaderT Decoding (StateT Nat (Except DecodeFault)) α

namespace Decoder

/-- The fault of a document that breaks off. -/
def breakOff {α : Type} : Decoder α := do
  throw (.document ((← read).document.fault.getD (.unreadable ⟨.noContent, {}, 0, none⟩)))

/-- The node itself, or the one that an alias stands for. -/
def resolve (n : Node) : Decoder Node := do
  match n with
  | .missing => breakOff
  | .alias _ anchor =>
    let d ← read
    let followed ← get
    if 100 * d.document.size < followed + 1 then throw .tooManyAliases
    set (followed + 1)
    match d.anchored.lookup anchor with
    | some n => pure n
    | none => breakOff
  | n => pure n

/-- Gives a place to the faults of a decoder that have none. -/
def placed {α : Type} (path : DecodePath) (mark : Mark) (x : Decoder α) : Decoder α :=
  fun d followed => (x d followed).mapError (DecodeFault.locate path mark)

/-- The fault of a scalar where something else is expected. A tag may say what it should be. -/
def scalarMismatch (tag : Option String) (text : String) (style : ScalarStyle)
    (expected : String) : Mismatch :=
  let plain (v : Value) : Mismatch := .kind v.described expected
  let checked (v : Option Value) (name : String) : Mismatch :=
    match v with
    | some v => plain v
    | none => .tagged text name
  match tag with
  | some "tag:yaml.org,2002:bool" => checked ((readBool? text).map .bool) "a boolean"
  | some "tag:yaml.org,2002:int" => checked ((readInt? text.toList).map .int) "an integer"
  | some "tag:yaml.org,2002:float" => checked ((readFloat? text.toList).map .float) "a float"
  | some "tag:yaml.org,2002:null" =>
    checked (if isNull text then some .null else none) "null"
  | tag =>
    if style = .plain ∧ tag.all (·.startsWith "!") then plain (Value.ofPlain text)
    else plain (.text text)

/-- Refuses a node where something else is expected. -/
def refuse {α : Type} (expected : String) (path : DecodePath) (n : Node) : Decoder α :=
  match n with
  | .missing | .alias .. => breakOff
  | .scalar mark _ tag text style =>
    throw (.mismatch (scalarMismatch tag text style expected) (some (path, mark)))
  | .sequence mark .. => throw (.mismatch (.kind "sequence" expected) (some (path, mark)))
  | .mapping mark .. => throw (.mismatch (.kind "map" expected) (some (path, mark)))

/-- The text of a scalar of any kind. -/
def textOr (expected : String) (path : DecodePath) (n : Node) : Decoder String := do
  match ← resolve n with
  | .scalar _ _ _ text _ => pure text
  | n => refuse expected path n

/-- A text. -/
def text : DecodePath → Node → Decoder String := textOr "a string"

/-- A number below `2 ^ 64`. It has no quotes, unless it is a literal block with the tag of a
number. -/
def unsigned (path : DecodePath) (n : Node) : Decoder Nat := do
  match ← resolve n with
  | .scalar mark anchor tag text style =>
    let written := style = .plain ∨
      (style = .literal ∧ tag = some "tag:yaml.org,2002:int")
    match if written then readUnsigned? (Nat.pow 2 64) text.toList else none with
    | some k => pure k
    | none => refuse "u64" path (.scalar mark anchor tag text style)
  | n => refuse "u64" path n

/-- What a decoder reads, or nothing where a plain scalar is empty or null. -/
def optional {α : Type} (some' : DecodePath → Node → Decoder α) (path : DecodePath) (n : Node) :
    Decoder (Option α) := do
  let n ← resolve n
  match n with
  | .scalar _ _ none text .plain =>
    if text.isEmpty || isNull text then pure none else some <$> some' path n
  | .scalar _ _ (some "tag:yaml.org,2002:null") text .plain =>
    if isNull text then pure none else throw (.mismatch (.tagged text "null") none)
  | n => some <$> some' path n

/-- The items of a sequence from an index on. -/
def items {α : Type} (each : DecodePath → Node → Decoder α) (path : DecodePath) :
    Nat → List Node → Decoder (List α)
  | _, [] => pure []
  | index, n :: rest => do
    let x ← each (.item index :: path) n
    let xs ← items each path (index + 1) rest
    pure (x :: xs)

/-- A sequence; an empty plain scalar is one without items. -/
def list {α : Type} (each : DecodePath → Node → Decoder α) (path : DecodePath) (n : Node) :
    Decoder (List α) := do
  match ← resolve n with
  | .sequence mark _ ns => Decoder.placed path mark (items each path 0 ns)
  | .scalar mark anchor tag text style =>
    if text.isEmpty ∧ style = .plain then pure []
    else refuse "a sequence" path (.scalar mark anchor tag text style)
  | n => refuse "a sequence" path n

/-- Passes over a node. -/
def ignore (n : Node) : Decoder Unit :=
  if n.isWhole then pure () else breakOff

/-- The entries of a mapping from left to right: `field` takes the value of each key. -/
def entries {σ : Type} (field : σ → String → DecodePath → Node → Decoder σ) (path : DecodePath) :
    σ → List (Node × Node) → Decoder σ
  | fields, [] => pure fields
  | fields, (k, v) :: rest => do
    let key ← textOr "field identifier" path k
    let step : PathStep :=
      match k with
      | .scalar .. => .value key
      | _ => .unnamed
    entries field path (← field fields key (step :: path) v) rest

/-- A mapping as a record: `field` takes the value of each key, and `whole` tells what is missing
in the end. An empty plain scalar is a mapping without entries. -/
def record {σ α : Type} (expected : String) (none : σ)
    (field : σ → String → DecodePath → Node → Decoder σ) (whole : σ → Except Mismatch α)
    (path : DecodePath) (n : Node) : Decoder α := do
  let finish (fields : σ) : Decoder α :=
    match whole fields with
    | .ok x => pure x
    | .error what => throw (.mismatch what .none)
  match ← resolve n with
  | .mapping mark _ es => Decoder.placed path mark do finish (← entries field path none es)
  | .scalar mark anchor tag text style =>
    if text.isEmpty ∧ style = .plain then Decoder.placed path mark (finish none)
    else refuse expected path (.scalar mark anchor tag text style)
  | n => refuse expected path n

/-- The value of a field that must not be there twice. -/
def once {α : Type} (name : String) (known : Option α) (value : Decoder α) :
    Decoder (Option α) :=
  match known with
  | some _ => throw (.mismatch (.duplicateField name) none)
  | none => some <$> value

end Decoder

namespace Document

/-- The whole document as what a decoder expects. -/
def decode {α : Type} (d : Document) (x : DecodePath → Node → Decoder α) :
    Except DecodeFault α := do
  let (value, _) ← (x [] d.root).run ⟨d, d.root.anchored.reverse⟩ |>.run 0
  match d.fault with
  | some fault => throw (.document fault)
  | none => if d.followed then throw .followed else pure value

end Document

end Yaml

end Carrier
