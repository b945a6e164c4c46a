/-!
# Blank characters and trimming

- `isBlank`: the characters with the Unicode property White_Space.
- `trim`: a text without the blank characters at its two ends.

A text that is only blank trims to the empty text, so `isBlankText` is the test
"nothing was written here".
-/

namespace Carrier

namespace Text

/-- The characters that have the Unicode property White_Space. -/
def isBlank (c : Char) : Bool :=
  let n := c.toNat
  (9 ≤ n && n ≤ 13) || n == 0x20 || n == 0x85 || n == 0xA0 || n == 0x1680 ||
    (0x2000 ≤ n && n ≤ 0x200A) || n == 0x2028 || n == 0x2029 || n == 0x202F || n == 0x205F ||
    n == 0x3000

/-- Drops a class of characters at the end of a text. -/
def dropEndWhile (p : Char → Bool) (s : List Char) : List Char :=
  (s.reverse.dropWhile p).reverse

/-- Drops a class of characters at both ends of a text. -/
def strip (p : Char → Bool) (s : List Char) : List Char :=
  dropEndWhile p (s.dropWhile p)

/-- A text without the blank characters at its two ends. -/
def trim (s : String) : String :=
  String.ofList (strip isBlank s.toList)

/-- Nothing but blank characters was written. -/
def isBlankText (s : String) : Bool :=
  s.toList.all isBlank

/-- Lower-case form of the ASCII letters; every other character stays. -/
def lowerAscii (s : String) : String :=
  String.ofList (s.toList.map Char.toLower)

end Text

end Carrier
