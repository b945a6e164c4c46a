import Carrier.Text.Decimal
import Carrier.Url.Ipv6

/-!
# Names that a server can be asked to prove

- `ServerName.isDomain`: labels of letters, digits, hyphens and underscores with points between
  them.
- `ServerName.isAddress`: an IPv4 or IPv6 address.
- `ServerName.isName`: either of them.

These are the names that `rustls` takes for a server.
-/

namespace Carrier

namespace ServerName

/-- What has been read of a label. -/
inductive Label where
  /-- Nothing of the first label. -/
  | start
  /-- Nothing of a later label; the one before it has digits only, or not. -/
  | next (afterDigits : Bool)
  /-- So many digits. -/
  | digits (length : Nat)
  /-- So many characters, the last of which is no hyphen. -/
  | word (length : Nat)
  /-- So many characters, the last of which is a hyphen. -/
  | hyphen (length : Nat)
  deriving DecidableEq, Repr

/-- The longest label. -/
def longestLabel : Nat := 63

/-- The longest name. -/
def longestName : Nat := 253

/-- Letters and the underscore. -/
def isLetter (c : Char) : Bool := c.isAlpha || c == '_'

/-- A label with one more character in it. -/
def Label.grow (length : Nat) (c : Char) : Option Label :=
  if longestLabel ≤ length then none
  else if c = '-' then some (.hyphen (length + 1))
  else if isLetter c || c.isDigit then some (.word (length + 1))
  else none

/-- A label that begins. -/
def Label.begin (c : Char) : Option Label :=
  if c.isDigit then some (.digits 1) else if isLetter c then some (.word 1) else none

/-- One character of a name. -/
def Label.step (l : Label) (c : Char) : Option Label :=
  match l with
  | .start | .next _ => begin c
  | .digits n =>
    if c = '.' then some (.next true)
    else if c.isDigit ∧ n < longestLabel then some (.digits (n + 1))
    else grow n c
  | .word n => if c = '.' then some (.next false) else grow n c
  | .hyphen n => if c = '.' then none else grow n c

/-- Whether a name may end after a label. -/
def Label.mayEnd : Label → Bool
  | .next _ | .word _ => true
  | .start | .digits _ | .hyphen _ => false

/-- Whether a text is the name of a domain, of which the last label has other characters than
digits, unless a point follows it. -/
def isDomain (s : String) : Bool :=
  decide (s.utf8ByteSize ≤ longestName) &&
    match s.toList.foldlM Label.step Label.start with
    | some l => l.mayEnd
    | none => false

/-- Whether a text is an IPv4 or IPv6 address. -/
def isAddress (s : String) : Bool :=
  (Ipv6.readQuad? s.toList).isSome || (Ipv6.parse? s.toList).isSome

/-- Whether a server can be asked to prove a name. -/
def isName (s : String) : Bool := isDomain s || isAddress s

end ServerName

end Carrier
