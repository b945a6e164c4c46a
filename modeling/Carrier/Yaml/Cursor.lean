import Carrier.Yaml.Fault

/-!
# Reading a YAML text from left to right

- `Cursor`: the text that is left, and where it begins.
- `isBlank`, `isBreak`, `isWord`: classes of characters.
- `Cursor.skip`, `Cursor.skipBreak`, `Cursor.span`: moving on.
- `Gap`: blanks and line breaks between words, and how they are folded.

A line ends with a line feed, a carriage return, both in that order, or one of three separators.
Where it is kept, every line end but two of the separators is a line feed.
-/

namespace Carrier

namespace Yaml

/-- The text that is left, and where it begins. -/
structure Cursor where
  /-- The text that is left. -/
  rest : List Char
  /-- Where it begins. -/
  mark : Mark
  deriving DecidableEq, Repr

/-- Spaces and tabs. -/
def isBlank (c : Char) : Bool := c == ' ' || c == '\t'

/-- Characters that end a line. -/
def isBreak (c : Char) : Bool :=
  c == '\n' || c == '\r' || c.toNat == 0x85 || c.toNat == 0x2028 || c.toNat == 0x2029

/-- Letters, digits, hyphen and underscore. -/
def isWord (c : Char) : Bool := c.isAlphanum || c == '_' || c == '-'

/-- The line end that is kept for one that is read. -/
def keptBreak (c : Char) : Char :=
  if c.toNat == 0x2028 || c.toNat == 0x2029 then c else '\n'

/-- Whether a text begins with a blank or a line end, or is empty. -/
def endsWord : List Char → Bool
  | [] => true
  | c :: _ => isBlank c || isBreak c

/-- Whether a text begins with a line end, or is empty. -/
def endsLine : List Char → Bool
  | [] => true
  | c :: _ => isBreak c

namespace Cursor

/-- The next character. -/
def peek? (c : Cursor) : Option Char := c.rest.head?

/-- Whether a character is next. -/
def at? (c : Cursor) (x : Char) : Bool := c.rest.head? == some x

/-- The cursor after a character that ends no line. -/
def skip (c : Cursor) : Cursor :=
  match c.rest with
  | [] => c
  | _ :: rest => ⟨rest, c.mark.next⟩

/-- The characters of a class that come next, of which none ends a line, and the cursor after
them. -/
def span (p : Char → Bool) (c : Cursor) : List Char × Cursor :=
  let taken := c.rest.takeWhile p
  (taken, ⟨c.rest.drop taken.length, c.mark.plus taken.length⟩)

/-- The cursor after blanks. -/
def skipBlanks (c : Cursor) : Cursor := (c.span isBlank).2

/-- The cursor at the end of the line. -/
def toLineEnd (c : Cursor) : Cursor := (c.span (!isBreak ·)).2

/-- The line end that comes next, as it is kept, and the cursor after it. -/
def takeBreak (c : Cursor) : List Char × Cursor :=
  match c.rest with
  | '\r' :: '\n' :: rest => (['\n'], ⟨rest, c.mark.nextLine 2⟩)
  | x :: rest => if isBreak x then ([keptBreak x], ⟨rest, c.mark.nextLine 1⟩) else ([], c)
  | [] => ([], c)

/-- The cursor after a line end. -/
def skipBreak (c : Cursor) : Cursor := c.takeBreak.2

/-- The cursor at the end of the line, if only blanks and a comment are left in it. -/
def afterComment? (c : Cursor) : Except Mark Cursor :=
  let c := c.skipBlanks
  let c := if c.at? '#' then c.toLineEnd else c
  if endsLine c.rest then .ok c.skipBreak else .error c.mark

/-- Whether the line begins with the sign of a document. -/
def atDocument (sign : Char) (c : Cursor) : Bool :=
  c.mark.column == 0 &&
    match c.rest with
    | x :: y :: z :: rest => x == sign && y == sign && z == sign && endsWord rest
    | _ => false

/-- Whether the line begins with one of the signs of a document. -/
def atAnyDocument (c : Cursor) : Bool := c.atDocument '-' || c.atDocument '.'

end Cursor

/-! ### Gaps between words -/

/-- Blanks and line ends between two words. -/
structure Gap where
  /-- The blanks before the first line end, in reverse. -/
  blanks : List Char := []
  /-- The first line end. -/
  first : Option Char := none
  /-- The other line ends, in reverse. -/
  more : List Char := []
  deriving DecidableEq, Repr

namespace Gap

/-- Whether a line ends in it. -/
def isBroken (g : Gap) : Bool := g.first.isSome

/-- A gap with one more line end. -/
def addBreak (g : Gap) (c : Char) : Gap :=
  match g.first with
  | none => { g with blanks := [], first := some c }
  | some _ => { g with more := c :: g.more }

/-- What becomes of a gap: blanks stay, one line feed becomes a space, and of several the first
is left out. -/
def folded (g : Gap) : List Char :=
  match g.first with
  | none => g.blanks.reverse
  | some '\n' => if g.more.isEmpty then [' '] else g.more.reverse
  | some c => c :: g.more.reverse

/-- The gap that comes next. With a limit, a tab before that column of a later line is refused. -/
def take (limit : Option Int) (g : Gap) (m : Mark) : List Char → Except Mark (Gap × Cursor)
  | '\r' :: '\n' :: rest => take limit (g.addBreak '\n') (m.nextLine 2) rest
  | c :: rest =>
    if isBlank c then
      let refused :=
        match limit with
        | some column => g.isBroken && decide ((m.column : Int) < column) && c == '\t'
        | none => false
      if refused then .error m
      else
        take limit (if g.isBroken then g else { g with blanks := c :: g.blanks }) m.next rest
    else if isBreak c then take limit (g.addBreak (keptBreak c)) (m.nextLine 1) rest
    else .ok (g, ⟨c :: rest, m⟩)
  | [] => .ok (g, ⟨[], m⟩)

end Gap

end Yaml

end Carrier
