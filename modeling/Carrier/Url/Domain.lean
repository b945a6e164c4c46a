import Carrier.Text.Blank
import Carrier.Text.Search
import Carrier.Text.Unicode.Bidi
import Carrier.Text.Unicode.Composition
import Carrier.Text.Unicode.Joining
import Carrier.Text.Unicode.Mapping
import Carrier.Url.Punycode

/-!
# Domain names

- `Domain.toAscii?`: the ASCII form of a domain name. Letters lose their case, characters outside
  ASCII are mapped and composed, and a label that still holds one is written in Punycode.
- `Domain.forbidden`: ASCII characters that no domain name holds.

The length of labels and names is not checked, and hyphens may stand anywhere. A name of ASCII
characters without a Punycode label needs none of the tables.

This is how the library `url` reads the names of hosts.
-/

namespace Carrier

namespace Domain

/-- ASCII characters that no domain name of a URL holds. -/
def forbidden (c : Char) : Bool :=
  c.toNat ≤ 0x20 || c.toNat == 0x7F || "%#/:<>?@[\\]^|".toList.contains c

/-- Whether all characters are ASCII. -/
def isAscii (s : List Char) : Bool := s.all (·.toNat < 0x80)

/-- What a label in Punycode begins with. -/
def codedMark : List Char := "xn--".toList

/-- The longest text after the mark of a coded label that is decoded. -/
def longestCoded : Nat := 2000

/-- The longest label that is encoded, in characters. -/
def longestLabel : Nat := 1000

/-- A text with each character mapped, in composed form; `none` if a character is refused. -/
def mapped? (s : List Char) : Option (List Char) :=
  (s.mapM Text.Mapping.of).map fun parts => Text.Composition.normal parts.flatten

/-- Whether a label of mapped characters may stand in a name. -/
def validLabel (label : List Char) : Bool :=
  match label with
  | [] => true
  | c :: _ => !Text.Joining.isMark c && Text.Joining.permitted label

/-- A label with its Punycode read. The label it stands for holds a character outside ASCII and
is its own mapping. -/
def readLabel? (label : List Char) : Option (List Char) :=
  if codedMark.isPrefixOf label then
    let coded := label.drop codedMark.length
    if coded.length > longestCoded then none
    else
      match Punycode.decode? coded with
      | some plain =>
        if !isAscii plain && mapped? plain == some plain && validLabel plain then some plain
        else none
      | none => none
  else if isAscii label || validLabel label then some label
  else none

/-- A label as ASCII. -/
def writeLabel? (label : List Char) : Option (List Char) :=
  if isAscii label then some label
  else if label.length > longestLabel then none
  else some (codedMark ++ Punycode.encode label)

/-- Labels with points between them. -/
def join (labels : List (List Char)) : List Char :=
  (List.intersperse ['.'] labels).flatten

/-- The ASCII form of a name that needs the tables. -/
def toAsciiMapped? (name : List Char) : Option (List Char) :=
  match mapped? name with
  | none => none
  | some name =>
    match (Text.fields '.' name).mapM readLabel? with
    | none => none
    | some labels =>
      if labels.any Text.Bidi.isRightToLeft && !labels.all Text.Bidi.permitted then none
      else (labels.mapM writeLabel?).map join

/-- The ASCII form of a domain name; `none` if it has none. -/
def toAscii? (name : List Char) : Option (List Char) :=
  let lower := name.map Char.toLower
  let plain :=
    isAscii name && (Text.fields '.' lower).all fun label => !codedMark.isPrefixOf label
  let result := if plain then some lower else toAsciiMapped? name
  match result with
  | some ascii => if ascii.any forbidden then none else some ascii
  | none => none

end Domain

end Carrier
