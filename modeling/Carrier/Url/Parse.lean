import Carrier.Url.Basic

/-!
# Reading a URL

`Url.parse` reads an absolute URL as the URL Standard does: control characters and spaces around
it and tabs and line ends within it do not count, the scheme and the host are brought into their
normal form, dot segments of the path are resolved, and characters that a component cannot hold
are percent-encoded.

It is the parser of the library `url`.
-/

namespace Carrier

namespace Url

/-- The text that counts: nothing around it, no tabs and line ends within it. -/
def cleaned (s : List Char) : List Char :=
  (Text.strip (·.toNat ≤ 0x20) s).filter fun c => c != '\t' && c != '\n' && c != '\r'

/-- Characters of a scheme after its first. -/
def inScheme (c : Char) : Bool :=
  c.isAlphanum || c == '+' || c == '-' || c == '.'

/-- The scheme in lower case, and the text after its colon. -/
def cutScheme? (s : List Char) : Option (String × List Char) :=
  match s, Text.cutChar? ':' s with
  | c :: _, some (scheme, rest) =>
    if c.isAlpha && scheme.all inScheme then
      some (String.ofList (scheme.map Char.toLower), rest)
    else none
  | _, _ => none

/-! ### Path, query and fragment -/

/-- A letter and a colon, or a bar in its place: the name of a drive. -/
def isDrive : List Char → Bool
  | [c, d] => c.isAlpha && (d == ':' || d == '|')
  | _ => false

/-- A segment that stands for the segment itself. -/
def isDot (s : List Char) : Bool :=
  s == ['.'] || s.map Char.toLower == "%2e".toList

/-- A segment that stands for the segment before it. -/
def isDoubleDot (s : List Char) : Bool :=
  [".." , ".%2e", "%2e.", "%2e%2e"].any (·.toList == s.map Char.toLower)

/-- The segments without the last one; a drive is never left. -/
def leave : List (List Char) → List (List Char)
  | [] => []
  | s :: rest => if isDrive s then s :: rest else rest

/-- The segments that are left when dot segments are resolved, in reverse; `out` holds those
already passed. -/
def resolve (out : List (List Char)) : List (List Char) → List (List Char)
  | [] => out
  | s :: rest =>
    let last := rest.isEmpty
    let out :=
      if isDoubleDot s then if last then [] :: leave out else leave out
      else if isDot s then if last then [] :: out else out
      else Percent.encode Percent.path s :: out
    resolve out rest

/-- The pieces of a path between slashes. -/
def pieces (kind : SchemeKind) (s : List Char) : List (List Char) :=
  Text.fields '/' (if kind.isSpecial then s.map fun c => if c == '\\' then '/' else c else s)

/-- The segments of a path whose first slash has been taken. -/
def segments (kind : SchemeKind) (s : List Char) : List String :=
  ((resolve [] (pieces kind s)).reverse).map String.ofList

/-- Where path, query and fragment part: the text before a question mark or number sign, and
the two components after it. -/
def cutTail (kind : SchemeKind) (s : List Char) :
    List Char × Option String × Option String :=
  let path := s.takeWhile fun c => c != '?' && c != '#'
  let rest := s.drop path.length
  let fragmentOf (t : List Char) := String.ofList (Percent.encode Percent.fragment t)
  let cls := if kind.isSpecial then Percent.specialQuery else Percent.query
  match rest with
  | '?' :: t =>
    match Text.cutChar? '#' t with
    | some (q, f) =>
      (path, some (String.ofList (Percent.encode cls q)), some (fragmentOf f))
    | none => (path, some (String.ofList (Percent.encode cls t)), none)
  | '#' :: t => (path, none, some (fragmentOf t))
  | _ => (path, none, none)

/-! ### Authority -/

/-- Whether a character ends an authority. -/
def endsAuthority (kind : SchemeKind) (c : Char) : Bool :=
  c == '/' || c == '?' || c == '#' || (kind.isSpecial && c == '\\')

/-- The host part of a text after the credentials: up to a colon outside brackets. -/
def cutHost (kind : SchemeKind) (inside : Bool) : List Char → List Char × List Char
  | [] => ([], [])
  | c :: s =>
    if (c == ':' && !inside) || endsAuthority kind c then ([], c :: s)
    else
      let inside := if c == '[' then true else if c == ']' then false else inside
      let (host, rest) := cutHost kind inside s
      (c :: host, rest)

/-- A port, up to the end of the authority. Any backslash ends it. -/
def readPort (acc : Nat) (any : Bool) :
    List Char → Except UrlFault (Option Nat × List Char)
  | [] => .ok (if any then some acc else none, [])
  | c :: s =>
    match Text.digitValue? c with
    | some d =>
      if acc * 10 + d < 65536 then readPort (acc * 10 + d) true s else .error .invalidPort
    | none =>
      if endsAuthority .network c then .ok (if any then some acc else none, c :: s)
      else .error .invalidPort

/-- User name and password as they are written in a URL. -/
def readCredentials (s : List Char) : String × String :=
  let encode (t : List Char) := String.ofList (Percent.encode Percent.userinfo t)
  match Text.cutChar? ':' s with
  | some (name, password) => (encode name, encode password)
  | none => (encode s, "")

/-- The credentials of an authority, if there is a sign that ends them, and the text after it. -/
def cutCredentials (kind : SchemeKind) (s : List Char) :
    Except UrlFault (String × String × List Char) :=
  let authority := s.takeWhile fun c => !endsAuthority kind c
  match Text.cutLast? '@' authority with
  | none => .ok ("", "", s)
  | some (front, _) =>
    let rest := s.drop (front.length + 1)
    match front, rest with
    | [], c :: _ => if endsAuthority kind c then .error .emptyHost else .ok ("", "", rest)
    | _, _ =>
      let (name, password) := readCredentials front
      .ok (name, password, rest)

/-- The authority after two slashes, and the text after it. -/
def readAuthority (scheme : String) (s : List Char) :
    Except UrlFault (Authority × List Char) := do
  let kind := SchemeKind.of scheme
  let (username, password, s) ← cutCredentials kind s
  let (hostText, s) := cutHost kind false s
  if kind.isSpecial && hostText.isEmpty then throw .emptyHost
  let host ← if kind.isSpecial then Host.parse hostText else Host.parseOpaque hostText
  if host = .domain "" ∧ s.head? = some ':' then throw .emptyHost
  let (port, s) ←
    match s with
    | ':' :: t => readPort 0 false t
    | _ => pure (none, s)
  if host = .domain "" ∧ ¬ (username.isEmpty ∧ password.isEmpty) then throw .emptyHost
  pure (⟨username, password, host, if port = defaultPort? scheme then none else port⟩, s)

/-! ### The whole URL -/

/-- A URL with an authority. -/
def parseHierarchical (scheme : String) (s : List Char) : Except UrlFault Url := do
  let kind := SchemeKind.of scheme
  let (authority, s) ← readAuthority scheme s
  let (path, query, fragment) := cutTail kind s
  let parts :=
    match path with
    | [] => if kind.isSpecial then [""] else []
    | c :: t => if c == '/' || (kind.isSpecial && c == '\\') then segments kind t
      else segments kind path
  pure ⟨scheme, some authority, .segments parts, query, fragment⟩

/-- A URL without authority, whose scheme is not special. -/
def parseOther (scheme : String) (s : List Char) : Url :=
  let (path, query, fragment) := cutTail .other s
  match path with
  | '/' :: t => ⟨scheme, none, .segments (segments .other t), query, fragment⟩
  | _ =>
    ⟨scheme, none, .whole (String.ofList (Percent.encode Percent.controls path)), query,
      fragment⟩

/-- The segments of the path of a file: no empty ones in front, and the bar of a drive is a
colon. -/
def fileSegments (s : List Char) : List String :=
  let parts := (resolve [] (pieces .file s)).reverse.map fun part =>
    match part with
    | [c, d] => if isDrive [c, d] then [c, ':'] else part
    | _ => part
  match parts.dropWhile (·.isEmpty) with
  | [] => [""]
  | parts => parts.map String.ofList

/-- The URL of a file. A path with a drive has no host. -/
def parseFile (s : List Char) : Except UrlFault Url := do
  let nowhere : Authority := ⟨"", "", .domain "", none⟩
  let (authority, s) ←
    match s with
    | c :: d :: t =>
      if (c == '/' || c == '\\') && (d == '/' || d == '\\') then
        let hostText := t.takeWhile fun c => !endsAuthority .file c
        if isDrive hostText then pure (nowhere, t)
        else if hostText.isEmpty then pure (nowhere, t)
        else
          let host ← Host.parse hostText
          let host := if host = .domain "localhost" then .domain "" else host
          pure ({ nowhere with host := host }, t.drop hostText.length)
      else pure (nowhere, s)
    | _ => pure (nowhere, s)
  let (path, query, fragment) := cutTail .file s
  let hasDrive := (resolve [] (pieces .file path)).any isDrive
  let authority := if hasDrive then nowhere else authority
  pure ⟨"file", some authority, .segments (fileSegments path), query, fragment⟩

/-- Reads an absolute URL. -/
def parse (text : String) : Except UrlFault Url :=
  match cutScheme? (cleaned text.toList) with
  | none => .error .noScheme
  | some (scheme, s) =>
    match SchemeKind.of scheme with
    | .file => parseFile s
    | .network => parseHierarchical scheme (s.dropWhile fun c => c == '/' || c == '\\')
    | .other =>
      match s with
      | '/' :: '/' :: t => parseHierarchical scheme t
      | _ => .ok (parseOther scheme s)

end Url

end Carrier
