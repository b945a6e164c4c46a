import Carrier.Text.Blank

/-!
# Headers

- `HeaderName`: a token in lower case, so that names that differ in case alone are one name.
- `HeaderValue`: a text of one line, which may be marked as not to be shown.
- `HeaderMap`: values under names, in the order in which they were added; a name may have several.
- `HeaderMap.valuesOf`: the values under a name, which is all that a map is asked for.

These are the names, values and maps of the library `http`.
-/

namespace Carrier

/-- Characters of a token. -/
def isTokenChar (c : Char) : Bool :=
  c.isAlphanum || "!#$%&'*+-.^_`|~".toList.contains c

/-- The longest name of a header. -/
def longestHeaderName : Nat := 65535

/-- Whether a text is a name: a token that is not too long and has no upper-case letters. -/
def isHeaderName (s : String) : Bool :=
  let cs := s.toList
  !cs.isEmpty && decide (cs.length ≤ longestHeaderName) &&
    cs.all fun c => isTokenChar c && !c.isUpper

/-- The name of a header. -/
structure HeaderName where
  /-- The token, in lower case. -/
  text : String
  /-- It is a name. -/
  valid : isHeaderName text = true
  deriving DecidableEq, Repr

/-- The name that a text spells, in any case. -/
def HeaderName.parse? (s : String) : Option HeaderName :=
  if h : isHeaderName (Text.lowerAscii s) = true then some ⟨Text.lowerAscii s, h⟩ else none

/-- Characters of a value: no control characters, except that a tab is allowed. -/
def isValueChar (c : Char) : Bool :=
  (0x20 ≤ c.toNat && c.toNat != 0x7F) || c == '\t'

/-- Whether a text is a value. -/
def isHeaderValue (s : String) : Bool := s.toList.all isValueChar

/-- The value of a header. -/
structure HeaderValue where
  /-- The text, in one line. -/
  text : String
  /-- Whether the text is a secret. -/
  sensitive : Bool
  /-- It is a value. -/
  valid : isHeaderValue text = true
  deriving DecidableEq, Repr

/-- The value that a text is, which is no secret. -/
def HeaderValue.parse? (s : String) : Option HeaderValue :=
  if h : isHeaderValue s = true then some ⟨s, false, h⟩ else none

/-- The value that a text is, as a secret. -/
def HeaderValue.parseSecret? (s : String) : Option HeaderValue :=
  if h : isHeaderValue s = true then some ⟨s, true, h⟩ else none

/-- Whether a value is written with visible ASCII characters, spaces and tabs. -/
def HeaderValue.isVisible (v : HeaderValue) : Bool :=
  v.text.toList.all fun c => c.toNat < 0x7F

/-- Values under names, in the order in which they were added. There is no limit to their number:
the one that a map of headers has in the library is left out. -/
structure HeaderMap where
  /-- The entries, oldest first. -/
  entries : List (HeaderName × HeaderValue)
  deriving DecidableEq, Repr

namespace HeaderMap

/-- No headers. -/
def empty : HeaderMap := ⟨[]⟩

/-- The values under a name, oldest first. -/
def valuesOf (m : HeaderMap) (name : HeaderName) : List HeaderValue :=
  (m.entries.filter (·.1 = name)).map (·.2)

/-- Adds a value under a name, after those it has. -/
def append (m : HeaderMap) (name : HeaderName) (value : HeaderValue) : HeaderMap :=
  ⟨m.entries ++ [(name, value)]⟩

/-- Makes a value the only one under its name. -/
def replace (m : HeaderMap) (name : HeaderName) (value : HeaderValue) : HeaderMap :=
  ⟨m.entries.filter (·.1 ≠ name) ++ [(name, value)]⟩

/-- The entries of one map after those of another. -/
def appendAll (m n : HeaderMap) : HeaderMap := ⟨m.entries ++ n.entries⟩

/-- How many values there are. -/
def size (m : HeaderMap) : Nat := m.entries.length

/-- The names that have a value, each once. -/
def names (m : HeaderMap) : List HeaderName := (m.entries.map (·.1)).eraseDups

@[simp] theorem valuesOf_empty (name : HeaderName) : empty.valuesOf name = [] := rfl

@[simp] theorem valuesOf_append (m : HeaderMap) (name other : HeaderName) (value : HeaderValue) :
    (m.append name value).valuesOf other =
      m.valuesOf other ++ if name = other then [value] else [] := by
  by_cases h : name = other <;> simp [append, valuesOf, List.filter_append, h]

@[simp] theorem valuesOf_appendAll (m n : HeaderMap) (name : HeaderName) :
    (m.appendAll n).valuesOf name = m.valuesOf name ++ n.valuesOf name := by
  simp [appendAll, valuesOf, List.filter_append]

theorem valuesOf_replace (m : HeaderMap) (name other : HeaderName) (value : HeaderValue) :
    (m.replace name value).valuesOf other =
      if name = other then [value] else m.valuesOf other := by
  by_cases h : name = other
  · subst h
    simp [replace, valuesOf, List.filter_append, List.filter_filter]
  · have kept : ∀ e ∈ m.entries,
        (decide (e.1 = other) && decide (e.1 ≠ name)) = decide (e.1 = other) := by
      intro e _
      by_cases he : e.1 = other
      · simp [he, Ne.symm h]
      · simp [he]
    simp only [replace, valuesOf, List.filter_append, List.filter_filter, List.filter_congr kept]
    simp [h]

end HeaderMap

end Carrier
