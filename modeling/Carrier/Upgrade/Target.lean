import Carrier.Text.Search

/-!
# The target of an upgrade request

- `RequestTarget`: the parts of a URL that a request is sent with.
- `RequestTarget.parse`: the target that the text of a URL spells, by the stricter grammar of
  requests, which knows no fragment.
- `RequestTarget.hostText`: who is asked, without credentials.
- `RequestTarget.shown`: the target as one text.

The grammar is that of `Uri` in the library `http`.
-/

namespace Carrier

/-- Why a text is no target. -/
inductive TargetFault where
  /-- The text is longer than 65534 characters. -/
  | tooLong
  /-- The scheme is longer than 64 characters. -/
  | schemeTooLong
  /-- A character stands where it may not. -/
  | invalidCharacter
  /-- The authority is not put together as it should be. -/
  | invalidAuthority
  /-- There is a path without a scheme, or a scheme without an authority. -/
  | invalidFormat
  deriving DecidableEq, Repr

/-- The wording of a target fault. -/
def TargetFault.message : TargetFault → String
  | .tooLong => "uri too long"
  | .schemeTooLong => "scheme too long"
  | .invalidCharacter => "invalid uri character"
  | .invalidAuthority => "invalid authority"
  | .invalidFormat => "invalid format"

/-- The parts of a URL that a request is sent with. -/
structure RequestTarget where
  /-- The scheme; a target without one is an authority alone. -/
  scheme : Option String
  /-- Credentials, host and port. -/
  authority : String
  /-- The path, if there is a scheme. -/
  path : String
  /-- The query. -/
  query : Option String
  deriving DecidableEq, Repr

namespace RequestTarget

/-- Characters of a scheme. -/
def inScheme (c : Char) : Bool := c.isAlphanum || c == '+' || c == '-' || c == '.'

/-- The scheme of a text and the text after `://`. -/
def cutScheme (s : List Char) : Except TargetFault (Option String × List Char) :=
  let scheme := s.takeWhile inScheme
  match s.drop scheme.length with
  | ':' :: '/' :: '/' :: rest =>
    if 64 < scheme.length then .error .schemeTooLong
    else .ok (some (String.ofList scheme), rest)
  | _ => .ok (none, s)

/-- Characters that end an authority. -/
def endsAuthority (c : Char) : Bool := c == '/' || c == '?' || c == '#'

/-- Characters of an authority, besides the percent sign. -/
def inAuthority (c : Char) : Bool := c.isAlphanum || "!$&'()*+,-.:;=@[]_~".toList.contains c

/-- What has been seen of an authority. -/
structure Scan where
  /-- Colons since the last sign that made them part of something else. -/
  colons : Nat := 0
  /-- An opening bracket. -/
  opened : Bool := false
  /-- A closing bracket. -/
  closed : Bool := false
  /-- A percent sign since the last sign that allowed it. -/
  percent : Bool := false
  /-- The last character is the one that ends the credentials. -/
  atEnd : Bool := false

/-- One character of an authority. -/
def Scan.step (s : Scan) (c : Char) : Except TargetFault Scan :=
  if c = '%' then .ok { s with percent := true, atEnd := false }
  else if ¬ inAuthority c then .error .invalidCharacter
  else if c = ':' then
    if 8 ≤ s.colons then .error .invalidAuthority
    else .ok { s with colons := s.colons + 1, atEnd := false }
  else if c = '[' then
    if s.percent ∨ s.opened then .error .invalidAuthority
    else .ok { s with opened := true, atEnd := false }
  else if c = ']' then
    if ¬ s.opened ∨ s.closed then .error .invalidAuthority
    else .ok { s with closed := true, colons := 0, percent := false, atEnd := false }
  else if c = '@' then .ok { s with colons := 0, percent := false, atEnd := true }
  else .ok { s with atEnd := false }

/-- Whether an authority is put together as it should be. -/
def checkAuthority (s : List Char) : Except TargetFault Unit :=
  match s.foldlM Scan.step {} with
  | .error fault => .error fault
  | .ok scan =>
    if scan.opened ≠ scan.closed ∨ 1 < scan.colons ∨ scan.atEnd ∨ scan.percent then
      .error .invalidAuthority
    else .ok ()

/-- Characters of a path. -/
def inPath (c : Char) : Bool :=
  let n := c.toNat
  n == 0x21 || n == 0x22 || (0x24 ≤ n && n ≤ 0x3B) || n == 0x3D || (0x40 ≤ n && n ≤ 0x5F) ||
    (0x61 ≤ n && n ≤ 0x7E) || 0x7F ≤ n

/-- Characters of a query. -/
def inQuery (c : Char) : Bool :=
  let n := c.toNat
  n == 0x21 || (0x24 ≤ n && n ≤ 0x3B) || n == 0x3D || 0x3F ≤ n

/-- Path and query of the text after an authority. -/
def cutPath (s : List Char) : Except TargetFault (String × Option String) :=
  let path := s.takeWhile fun c => c != '?' && c != '#'
  if ¬ path.all inPath then .error .invalidCharacter
  else
    match s.drop path.length with
    | '?' :: t =>
      let query := t.takeWhile (· != '#')
      if query.all inQuery then .ok (String.ofList path, some (String.ofList query))
      else .error .invalidCharacter
    | _ => .ok (String.ofList path, none)

/-- The target that the text of a URL spells. -/
def parse (text : String) : Except TargetFault RequestTarget := do
  if 65534 < text.utf8ByteSize then throw .tooLong
  let (scheme, s) ← cutScheme text.toList
  let authority := s.takeWhile (!endsAuthority ·)
  checkAuthority authority
  let rest := s.drop authority.length
  match scheme with
  | none =>
    if rest.isEmpty then pure ⟨none, String.ofList authority, "", none⟩
    else throw .invalidFormat
  | some scheme =>
    if authority.isEmpty then throw .invalidFormat
    else
      let (path, query) ← cutPath rest
      pure ⟨some scheme, String.ofList authority, path, query⟩

/-- Host and port, without credentials. -/
def hostText (t : RequestTarget) : String :=
  match Text.cutChar? '@' t.authority.toList with
  | some (_, rest) => String.ofList rest
  | none => t.authority

/-- The target as one text. -/
def shown (t : RequestTarget) : String :=
  match t.scheme with
  | none => t.authority
  | some scheme =>
    scheme ++ "://" ++ t.authority ++ (if t.path.isEmpty then "/" else t.path) ++
      t.query.elim "" ("?" ++ ·)

end RequestTarget

end Carrier
