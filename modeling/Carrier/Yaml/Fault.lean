/-!
# Faults in a YAML text

- `Mark`: a place in a text.
- `Problem`: what is wrong at a place.
- `Context`: what was being read.
- `YamlFault`: a problem, where it is, and what was being read since where.
- `YamlFault.message`: the wording. A place at the very beginning is not named, and neither is the
  place of a context that is the place of the problem.

These are the errors of the parser behind `serde_yaml`.
-/

namespace Carrier

namespace Yaml

/-- A place in a text, counted from zero. -/
structure Mark where
  /-- Characters before it. -/
  index : Nat := 0
  /-- Lines before it. -/
  line : Nat := 0
  /-- Characters before it in its line. -/
  column : Nat := 0
  deriving DecidableEq, Repr, Inhabited

namespace Mark

/-- The place after a character that ends no line. -/
def next (m : Mark) : Mark := { m with index := m.index + 1, column := m.column + 1 }

/-- The place `n` characters on in the same line. -/
def plus (m : Mark) (n : Nat) : Mark := { m with index := m.index + n, column := m.column + n }

/-- The beginning of the next line, after a line end of `n` characters. -/
def nextLine (m : Mark) (n : Nat) : Mark := ⟨m.index + n, m.line + 1, 0⟩

/-- Whether it is the beginning of the first line. -/
def isOrigin (m : Mark) : Bool := m.line == 0 && m.column == 0

/-- The place as it is named, counted from one. -/
def shown (m : Mark) : String :=
  "line " ++ toString (m.line + 1) ++ " column " ++ toString (m.column + 1)

end Mark

/-- What is wrong at a place. -/
inductive Problem where
  | controlCharacter
  | noColon
  | noEntryHere
  | noKeyHere
  | noValueHere
  | noToken
  | unknownDirective
  | noCommentOrBreak
  | noDirectiveName
  | badDirectiveName
  | noVersionPoint
  | longVersion
  | noVersion
  | noBlank
  | noBlankOrBreak
  | noAnchorName
  | noTagEnd
  | noTagMark
  | noTagUri
  | noEscapedOctet
  | badFirstOctet
  | badLaterOctet
  | zeroIndent
  | tabInIndent
  | documentInQuotes
  | endInQuotes
  | unknownEscape
  | noHexNumber
  | badCodePoint
  | colonInFlow
  | tabInPlain
  | noDocumentStart
  | noContent
  | undefinedHandle
  | noDash
  | noKey
  | noSequenceEnd
  | noMappingEnd
  | duplicateVersion
  | incompatibleVersion
  | duplicateHandle
  deriving DecidableEq, Repr

/-- The wording of a problem. -/
def Problem.message : Problem → String
  | .controlCharacter => "control characters are not allowed"
  | .noColon => "could not find expected ':'"
  | .noEntryHere => "block sequence entries are not allowed in this context"
  | .noKeyHere => "mapping keys are not allowed in this context"
  | .noValueHere => "mapping values are not allowed in this context"
  | .noToken => "found character that cannot start any token"
  | .unknownDirective => "found unknown directive name"
  | .noCommentOrBreak => "did not find expected comment or line break"
  | .noDirectiveName => "could not find expected directive name"
  | .badDirectiveName => "found unexpected non-alphabetical character"
  | .noVersionPoint => "did not find expected digit or '.' character"
  | .longVersion => "found extremely long version number"
  | .noVersion => "did not find expected version number"
  | .noBlank => "did not find expected whitespace"
  | .noBlankOrBreak => "did not find expected whitespace or line break"
  | .noAnchorName => "did not find expected alphabetic or numeric character"
  | .noTagEnd => "did not find the expected '>'"
  | .noTagMark => "did not find expected '!'"
  | .noTagUri => "did not find expected tag URI"
  | .noEscapedOctet => "did not find URI escaped octet"
  | .badFirstOctet => "found an incorrect leading UTF-8 octet"
  | .badLaterOctet => "found an incorrect trailing UTF-8 octet"
  | .zeroIndent => "found an indentation indicator equal to 0"
  | .tabInIndent => "found a tab character where an indentation space is expected"
  | .documentInQuotes => "found unexpected document indicator"
  | .endInQuotes => "found unexpected end of stream"
  | .unknownEscape => "found unknown escape character"
  | .noHexNumber => "did not find expected hexadecimal number"
  | .badCodePoint => "found invalid Unicode character escape code"
  | .colonInFlow => "found unexpected ':'"
  | .tabInPlain => "found a tab character that violates indentation"
  | .noDocumentStart => "did not find expected <document start>"
  | .noContent => "did not find expected node content"
  | .undefinedHandle => "found undefined tag handle"
  | .noDash => "did not find expected '-' indicator"
  | .noKey => "did not find expected key"
  | .noSequenceEnd => "did not find expected ',' or ']'"
  | .noMappingEnd => "did not find expected ',' or '\x7d'"
  | .duplicateVersion => "found duplicate %YAML directive"
  | .incompatibleVersion => "found incompatible YAML document"
  | .duplicateHandle => "found duplicate %TAG directive"

/-- What was being read; a tag may stand within a directive. -/
inductive Context where
  | simpleKey
  | nextToken
  | directive
  | versionDirective
  | tagDirective
  | anchor
  | alias
  | tag
  | tagUri (within : Bool)
  | tagHandle (within : Bool)
  | directiveHandle
  | blockScalar
  | quotedScalar
  | quotedEscape
  | plainScalar
  | blockNode
  | flowNode
  | node
  | blockCollection
  | blockMapping
  | flowSequence
  | flowMapping
  deriving DecidableEq, Repr

/-- The wording of a context. -/
def Context.message : Context → String
  | .simpleKey => "while scanning a simple key"
  | .nextToken => "while scanning for the next token"
  | .directive => "while scanning a directive"
  | .versionDirective => "while scanning a %YAML directive"
  | .tagDirective => "while scanning a %TAG directive"
  | .anchor => "while scanning an anchor"
  | .alias => "while scanning an alias"
  | .tag => "while scanning a tag"
  | .tagUri within => if within then "while parsing a %TAG directive" else "while parsing a tag"
  | .tagHandle within =>
    if within then "while scanning a tag directive" else "while scanning a tag"
  | .directiveHandle => "while parsing a tag directive"
  | .blockScalar => "while scanning a block scalar"
  | .quotedScalar => "while scanning a quoted scalar"
  | .quotedEscape => "while parsing a quoted scalar"
  | .plainScalar => "while scanning a plain scalar"
  | .blockNode => "while parsing a block node"
  | .flowNode => "while parsing a flow node"
  | .node => "while parsing a node"
  | .blockCollection => "while parsing a block collection"
  | .blockMapping => "while parsing a block mapping"
  | .flowSequence => "while parsing a flow sequence"
  | .flowMapping => "while parsing a flow mapping"

/-- A problem, where it is, and what was being read. -/
structure YamlFault where
  /-- What is wrong. -/
  problem : Problem
  /-- Where it is. -/
  mark : Mark := {}
  /-- The octets before it, for a character that no text may hold. -/
  offset : Nat := 0
  /-- What was being read, and since where. -/
  context : Option (Context × Mark) := none
  deriving DecidableEq, Repr

/-- The wording of a fault. -/
def YamlFault.message (f : YamlFault) : String :=
  let place :=
    if ¬ f.mark.isOrigin then " at " ++ f.mark.shown
    else if f.offset ≠ 0 then " at position " ++ toString f.offset
    else ""
  let context :=
    match f.context with
    | none => ""
    | some (c, m) =>
      ", " ++ c.message ++
        if ¬ m.isOrigin ∧ (m.line ≠ f.mark.line ∨ m.column ≠ f.mark.column) then
          " at " ++ m.shown
        else ""
  f.problem.message ++ place ++ context

end Yaml

end Carrier
